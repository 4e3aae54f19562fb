import JavaCallGraph.Format.Json.Read
import JavaCallGraph.Format.Json.Write
import JavaCallGraph.Proofs.KeyMap
import JavaCallGraph.ResultFiles

/-!
# Reading what was written

The reader takes a written value off the front of a text, whatever follows it. Only values without
numbers are looked at here, as graphs and snippets are: a number could go on in what follows.

* `Json.readString_quote` — a string with its escapes.
* `Json.Textual`, `Json.readValue_write` — lists and objects of strings at any depth.
* `Json.parse?_pretty` — a whole file.
* `CallGraph.parse_render_json`, `snippetsOfJson?_snippetsJson` — graphs and snippets.
-/

namespace JavaCallGraph

namespace Json

/-! ## Strings -/

theorem hexUnit?_hexDigit : ∀ n < 32,
    hexUnit? '0' '0' (hexDigit (n / 16)) (hexDigit (n % 16)) = some n := by decide

/-- The reader undoes one escape with one unit of fuel. -/
theorem readString_escape (c : Char) (fuel : Nat) (rest : List Char) :
    readString (fuel + 1) (escape c ++ rest) = prepend c (readString fuel rest) := by
  unfold escape
  split
  · rfl
  · rfl
  · rfl
  · rfl
  · rfl
  · rfl
  · rfl
  · rename_i h_quote h_slash _ _ _ _ _
    split
    · rename_i h_low
      have h_unit := hexUnit?_hexDigit c.toNat h_low
      have h_high : isHighUnit c.toNat = false := by simp [isHighUnit]; omega
      have h_second : isLowUnit c.toNat = false := by simp [isLowUnit]; omega
      simp only [List.cons_append, List.nil_append, readString, h_unit, h_high, h_second,
        Bool.false_eq_true, if_false, Char.ofNat_toNat]
    · rename_i h_low
      rw [List.singleton_append, readString]
      · simp [h_low, show c ≠ '\\' from h_slash]
      · exact h_quote
      · intro a b c' d rest' h_eq
        exact absurd h_eq h_slash
      · intro c' rest' h_eq
        exact absurd h_eq h_slash

theorem escape_ne_nil (c : Char) : escape c ≠ [] := by
  unfold escape
  split <;> try simp
  split <;> simp

theorem readString_flatMap_escape (s rest : List Char) {fuel : Nat}
    (h : (s.flatMap escape).length < fuel) :
    readString fuel (s.flatMap escape ++ '"' :: rest) = some (s, rest) := by
  induction s generalizing fuel with
  | nil =>
    cases fuel with
    | zero => simp at h
    | succ fuel => rfl
  | cons c s ih =>
    have h_escape := List.length_pos_iff.2 (escape_ne_nil c)
    rw [List.flatMap_cons, List.length_append] at h
    cases fuel with
    | zero => simp at h
    | succ fuel =>
      rw [List.flatMap_cons, List.append_assoc, readString_escape, ih (by omega)]
      rfl

/-- The reader gives itself enough fuel for the string in front of it. -/
theorem readString_quote (s rest : List Char) :
    readString ((s.flatMap escape ++ '"' :: rest).length + 1) (s.flatMap escape ++ '"' :: rest) =
      some (s, rest) := by
  apply readString_flatMap_escape
  rw [List.length_append]
  omega

/-! ## Blanks -/

theorem skipSpace_lineStart (depth : Nat) (cs : List Char) :
    skipSpace (lineStart depth ++ cs) = skipSpace cs := by
  have h_blanks : ∀ n, (List.replicate n ' ' ++ cs).dropWhile isSpace = cs.dropWhile isSpace := by
    intro n
    induction n with
    | zero => rfl
    | succ n ih => simpa [List.replicate_succ, isSpace] using ih
  exact h_blanks (2 * depth)

theorem skipSpace_cons {c : Char} (h : isSpace c = false) (cs : List Char) :
    skipSpace (c :: cs) = c :: cs := by
  simp [skipSpace, h]

theorem readValue_congr {cs cs' : List Char} (h : skipSpace cs = skipSpace cs') (fuel : Nat) :
    readValue fuel cs = readValue fuel cs' := by
  cases fuel with
  | zero => rw [readValue, readValue]
  | succ fuel => rw [readValue, readValue, h]

theorem readMembers_congr {cs cs' : List Char} (h : skipSpace cs = skipSpace cs') (fuel : Nat) :
    readMembers fuel cs = readMembers fuel cs' := by
  cases fuel with
  | zero => rw [readMembers, readMembers]
  | succ fuel => rw [readMembers, readMembers, h]

/-! ## Values -/

/-- Strings, and lists and objects of such values. -/
inductive Textual : Json → Prop
  | string (s : String) : Textual (.string s)
  | array {items : List Json} (h : ∀ v ∈ items, Textual v) : Textual (.array items)
  | object {members : List (String × Json)} (h : ∀ m ∈ members, Textual m.2) :
    Textual (.object members)

/-- The reader takes the value off the front of a text, given as much fuel as it has characters. -/
def Reads (v : Json) : Prop :=
  ∀ (depth : Nat) {fuel : Nat} (rest : List Char), (write depth v).length < fuel →
    readValue fuel (write depth v ++ rest) = some (v, rest)

theorem Textual.write_eq_cons {v : Json} (h : Textual v) (depth : Nat) :
    ∃ c cs, write depth v = c :: cs ∧ (c = '"' ∨ c = '[' ∨ c = '{') := by
  cases h with
  | string s => exact ⟨_, _, rfl, .inl rfl⟩
  | @array items h =>
    cases items with
    | nil => exact ⟨_, _, rfl, .inr (.inl rfl)⟩
    | cons item items => exact ⟨_, _, by rw [write], .inr (.inl rfl)⟩
  | @object members h =>
    cases members with
    | nil => exact ⟨_, _, rfl, .inr (.inr rfl)⟩
    | cons m members => exact ⟨_, _, by rw [write], .inr (.inr rfl)⟩

theorem reads_string (s : String) : Reads (.string s) := by
  intro depth fuel rest h_fuel
  cases fuel with
  | zero => omega
  | succ fuel =>
    have h_text : write depth (.string s) ++ rest = '"' :: (s.toList.flatMap escape ++ '"' :: rest) := by
      rw [write, quote]
      simp
    rw [h_text, readValue, skipSpace_cons (by decide)]
    simp only [readString_quote, Option.map_some, String.ofList_toList]

/-- The items of a list up to its bracket. -/
theorem readItems_write {item : Json} {items : List Json} (h : ∀ v ∈ item :: items, Reads v)
    (depth outer : Nat) {blanks : List Char} (h_blanks : ∀ cs, skipSpace (blanks ++ cs) = skipSpace cs)
    {fuel : Nat} (rest : List Char)
    (h_fuel : (write depth item ++ writeItems depth items).length + 1 < fuel) :
    readItems fuel (blanks ++ (write depth item ++ (writeItems depth items ++
      (lineStart outer ++ ']' :: rest)))) = some (item :: items, rest) := by
  induction items generalizing item blanks fuel with
  | nil =>
    cases fuel with
    | zero => omega
    | succ fuel =>
      rw [writeItems, List.append_nil] at h_fuel
      rw [readItems, readValue_congr (h_blanks _), h item List.mem_cons_self depth _ (by omega)]
      simp only [writeItems, List.nil_append, skipSpace_lineStart]
      rw [skipSpace_cons (by decide)]
      rfl
  | cons next items ih =>
    cases fuel with
    | zero => omega
    | succ fuel =>
      rw [writeItems, List.length_append, List.length_cons, List.append_assoc, List.length_append]
        at h_fuel
      rw [readItems, readValue_congr (h_blanks _), h item List.mem_cons_self depth _ (by omega)]
      simp only [writeItems, List.cons_append]
      rw [skipSpace_cons (by decide)]
      -- behind the comma a new line starts, whose blanks the reader of the next item skips
      have h_rest := ih (fun v h_v => h v (List.mem_cons_of_mem _ h_v)) (skipSpace_lineStart depth)
        (show (write depth next ++ writeItems depth items).length + 1 < fuel by omega)
      simp only [List.append_assoc] at h_rest ⊢
      rw [h_rest]
      rfl

theorem skipSpace_blank (cs : List Char) : skipSpace (' ' :: cs) = skipSpace cs := rfl

/-- The members of an object from the value of the first on. -/
def membersFrom (name : String) (fuel : Nat) :
    Option (Json × List Char) → Option (List (String × Json) × List Char)
  | none => none
  | some (value, rest) =>
    match skipSpace rest with
    | ',' :: rest =>
      (readMembers fuel rest).map fun (members, rest) => ((name, value) :: members, rest)
    | '}' :: rest => some ([(name, value)], rest)
    | _ => none

/-- A member is read in two steps: its name, then its value. -/
theorem readMembers_quote (name : String) (fuel : Nat) (cs : List Char) :
    readMembers (fuel + 1) (quote name ++ ':' :: cs) = membersFrom name fuel (readValue fuel cs) := by
  have h_text : quote name ++ ':' :: cs = '"' :: (name.toList.flatMap escape ++ '"' :: ':' :: cs) := by
    simp [quote]
  rw [h_text, readMembers, skipSpace_cons (by decide)]
  simp only [readString_quote]
  rw [skipSpace_cons (by decide)]
  simp only [String.ofList_toList]
  rfl

/-- The members of an object up to its bracket. -/
theorem readMembers_write {name : String} {value : Json} {members : List (String × Json)}
    (h : ∀ m ∈ (name, value) :: members, Reads m.2) (depth outer : Nat) {fuel : Nat} (rest : List Char)
    (h_fuel : (quote name ++ ':' :: ' ' :: (write depth value ++ writeMembers depth members)).length + 1
      < fuel) :
    readMembers fuel (quote name ++ ':' :: ' ' :: (write depth value ++ (writeMembers depth members ++
      (lineStart outer ++ '}' :: rest)))) = some ((name, value) :: members, rest) := by
  have h_value : Reads value := h _ List.mem_cons_self
  induction members generalizing name value fuel with
  | nil =>
    cases fuel with
    | zero => omega
    | succ fuel =>
      rw [readMembers_quote, readValue_congr (skipSpace_blank _), h_value depth]
      · simp only [membersFrom, writeMembers, List.nil_append, skipSpace_lineStart]
        rw [skipSpace_cons (by decide)]
        rfl
      · simp only [List.length_append, List.length_cons] at h_fuel
        omega
  | cons next members ih =>
    obtain ⟨next_name, next_value⟩ := next
    cases fuel with
    | zero => omega
    | succ fuel =>
      simp only [List.length_append, List.length_cons, writeMembers] at h_fuel
      rw [readMembers_quote, readValue_congr (skipSpace_blank _), h_value depth _ (by omega)]
      simp only [membersFrom, writeMembers, List.cons_append]
      rw [skipSpace_cons (by decide)]
      have h_rest := ih (fun m h_m => h m (List.mem_cons_of_mem _ h_m))
        (show (quote next_name ++ ':' :: ' ' :: (write depth next_value ++ writeMembers depth members)).length
          + 1 < fuel by simp only [List.length_append, List.length_cons]; omega)
        (h _ (List.mem_cons_of_mem _ List.mem_cons_self))
      simp only [List.append_assoc, List.cons_append, List.nil_append] at h_rest ⊢
      rw [readMembers_congr (skipSpace_lineStart depth _), h_rest]
      rfl

/-- After an opening bracket the reader looks for a closing one. -/
theorem readValue_bracket {cs more : List Char} {c : Char} (h : skipSpace cs = c :: more)
    (h_c : c ≠ ']') (fuel : Nat) :
    readValue (fuel + 1) ('[' :: cs) =
      (readItems fuel (c :: more)).map fun r => (array r.1, r.2) := by
  rw [readValue, skipSpace_cons (by decide)]
  simp only [h]
  split
  · rename_i h_eq
    exact absurd (List.cons.inj h_eq).1 h_c
  · rfl

theorem readValue_brace {cs more : List Char} {c : Char} (h : skipSpace cs = c :: more)
    (h_c : c ≠ '}') (fuel : Nat) :
    readValue (fuel + 1) ('{' :: cs) =
      (readMembers fuel (c :: more)).map fun r => (object r.1, r.2) := by
  rw [readValue, skipSpace_cons (by decide)]
  simp only [h]
  split
  · rename_i h_eq
    exact absurd (List.cons.inj h_eq).1 h_c
  · rfl

theorem reads_array {items : List Json} (h_text : ∀ v ∈ items, Textual v)
    (h : ∀ v ∈ items, Reads v) : Reads (.array items) := by
  intro depth fuel rest h_fuel
  cases fuel with
  | zero => omega
  | succ fuel =>
    cases items with
    | nil => rfl
    | cons item items =>
      rw [write] at h_fuel ⊢
      simp only [List.length_append, List.length_cons] at h_fuel
      have h_items := readItems_write h (depth + 1) depth (fun cs => congrArg skipSpace (List.nil_append cs))
        rest (show (write (depth + 1) item ++ writeItems (depth + 1) items).length + 1 < fuel by
          simp only [List.length_append]; omega)
      obtain ⟨c, cs, h_start, h_c⟩ := (h_text item List.mem_cons_self).write_eq_cons (depth + 1)
      have h_space : isSpace c = false ∧ c ≠ ']' := by
        rcases h_c with rfl | rfl | rfl <;> decide
      simp only [List.append_assoc, List.cons_append, List.nil_append, h_start] at h_items ⊢
      rw [readValue_bracket ((skipSpace_lineStart _ _).trans (skipSpace_cons h_space.1 _)) h_space.2,
        h_items]
      rfl

theorem reads_object {members : List (String × Json)} (h : ∀ m ∈ members, Reads m.2) :
    Reads (.object members) := by
  intro depth fuel rest h_fuel
  cases fuel with
  | zero => omega
  | succ fuel =>
    cases members with
    | nil => rfl
    | cons m members =>
      obtain ⟨name, value⟩ := m
      rw [write] at h_fuel ⊢
      simp only [List.length_append, List.length_cons] at h_fuel
      have h_members := readMembers_write h (depth + 1) depth rest
        (show (quote name ++ ':' :: ' ' :: (write (depth + 1) value ++
            writeMembers (depth + 1) members)).length + 1 < fuel by
          simp only [List.length_append, List.length_cons]; omega)
      simp only [quote, List.append_assoc, List.cons_append, List.nil_append] at h_members ⊢
      rw [readValue_brace ((skipSpace_lineStart _ _).trans (skipSpace_cons (by decide) _)) (by decide),
        h_members]
      rfl

/-- The reader takes a written value off the front of a text. -/
theorem readValue_write {v : Json} (h : Textual v) : Reads v := by
  induction h with
  | string s => exact reads_string s
  | array h ih => exact reads_array h ih
  | object h ih => exact reads_object ih

/-- A written file is read as the value that was written. -/
theorem parse?_pretty {v : Json} (h : Textual v) : parse? (v.pretty ++ "\n") = some v := by
  have h_text : (v.pretty ++ "\n").toList = write 0 v ++ ['\n'] := by
    simp [pretty]
  rw [parse?, h_text, readValue_write h 0 _ (by rw [List.length_append]; omega)]
  rfl

end Json

/-! ## Graphs and snippets -/

theorem mapM_map_eq_some {α β : Type} {f : α → β} {g : β → Option α} (h : ∀ x, g (f x) = some x)
    (xs : List α) : (xs.map f).mapM g = some xs := by
  induction xs with
  | nil => rfl
  | cons x xs ih => simp [List.mapM_cons, h, ih]

theorem Json.textual_ofStrings (xs : List String) : Textual (ofStrings xs) := by
  refine .array fun v h_v => ?_
  obtain ⟨s, -, rfl⟩ := List.mem_map.1 h_v
  exact .string s

theorem Json.strings?_ofStrings (xs : List String) : (ofStrings xs).strings? = some xs := by
  show (xs.map Json.string).mapM string? = some xs
  apply mapM_map_eq_some
  intro x
  rfl

namespace CallGraph

theorem textual_toJson (g : CallGraph) : g.toJson.Textual := by
  refine .object fun m h_m => ?_
  obtain ⟨⟨caller, callees⟩, -, rfl⟩ := List.mem_map.1 h_m
  exact Json.textual_ofStrings callees

theorem ofJson?_toJson (g : CallGraph) : ofJson? g.toJson = some g := by
  have h_entries : (g.entries.toList.map fun e => (e.1, Json.ofStrings e.2)).mapM
      (fun m => m.2.strings?.map (m.1, ·)) = some g.entries.toList := by
    apply mapM_map_eq_some
    intro e
    rw [Json.strings?_ofStrings, Option.map_some]
  calc ofJson? g.toJson
      = (some g.entries.toList).bind (fun entries => some (ofEntries entries)) :=
        congrArg (Option.bind · fun entries => some (ofEntries entries)) h_entries
    _ = some g := by rw [Option.bind_some, ofEntries, KeyMap.ofList_toList]

theorem parse_render_json (g : CallGraph) : parse .json (g.render .json) = .ok g := by
  simp only [parse, render, Json.parse?_pretty g.textual_toJson, Option.bind_some, ofJson?_toJson]

end CallGraph

theorem textual_snippetsJson (snippets : SnippetMap) : (snippetsJson snippets).Textual := by
  refine .object fun m h_m => ?_
  obtain ⟨⟨signature, text⟩, -, rfl⟩ := List.mem_map.1 h_m
  exact .string text

theorem snippetsOfJson?_snippetsJson (snippets : SnippetMap) :
    snippetsOfJson? (snippetsJson snippets) = some snippets := by
  have h_entries : (snippets.toList.map fun e => (e.1, Json.string e.2)).mapM
      (fun m => m.2.string?.map (m.1, ·)) = some snippets.toList := by
    apply mapM_map_eq_some
    intro e
    rfl
  calc snippetsOfJson? (snippetsJson snippets)
      = (some snippets.toList).bind (fun entries => some (KeyMap.ofList entries)) :=
        congrArg (Option.bind · fun entries => some (KeyMap.ofList entries)) h_entries
    _ = some snippets := by rw [Option.bind_some, KeyMap.ofList_toList]

end JavaCallGraph
