import JavaCallGraph.Command
import JavaCallGraph.Proofs.CallDistance
import JavaCallGraph.Proofs.ResultFiles

/-!
# Direct callees by two queries

The callees of a method are asked for up to a depth. For depth one the list that is stored for the method
is printed as it is; for more, the graph is searched, and every signature is printed once with its
distance. The two differ in what they take for a known signature and in the method itself: a method that
is only called has no list of its own, but it is a node of the graph, and the search does not come back
to where it started.

* `CallGraph.mem_levels_one`, `CallGraph.levels_eq_nil` — the first level of a search, and a search that
  finds nothing.
* `Disk.listCallees_one_eq_ok_iff`, `Disk.listCallees_eq_ok_iff` — what the two queries answer.
* `Disk.callee_queries_agree` — where they agree.
* `Disk.leaves_and_recursion_differ` — where they do not.
-/

namespace JavaCallGraph

namespace CallGraph

variable {g : CallGraph} {signature : String}

theorem calls_iff_mem {callees : List String} (h : g.callees? signature = some callees) {t : String} :
    g.Calls signature t ↔ t ∈ callees := by
  constructor
  · rintro ⟨callees', h_callees', h_mem⟩
    obtain rfl := Option.some.inj (h.symm.trans h_callees')
    exact h_mem
  · exact fun h_mem => ⟨callees, h, h_mem⟩

theorem distance_one_iff {t : String} :
    g.Distance signature t 1 ↔ t ≠ signature ∧ g.Calls signature t := by
  rw [distance_succ_iff]
  constructor
  · rintro ⟨h_least, b, h_b, h_calls⟩
    obtain rfl := distance_zero_iff.1 h_b
    refine ⟨?_, h_calls⟩
    rintro rfl
    exact Nat.lt_irrefl 0 (h_least 0 (.here t))
  · rintro ⟨h_ne, h_calls⟩
    refine ⟨fun m h_chain => Nat.pos_of_ne_zero ?_, signature, distance_zero_iff.2 rfl, h_calls⟩
    rintro rfl
    exact h_ne (chain_zero_iff.1 h_chain).symm

/-- On the first level are the callees, but for the method itself. -/
theorem mem_levels_one {t : String} {depth : Nat} (h : 1 ≤ depth) :
    (t, 1) ∈ g.levels signature depth ↔ g.Calls signature t ∧ t ≠ signature := by
  rw [mem_levels, distance_one_iff]
  constructor
  · rintro ⟨h_ne, ⟨-, h_calls⟩, -⟩
    exact ⟨h_calls, h_ne⟩
  · rintro ⟨h_calls, h_ne⟩
    exact ⟨h_ne, ⟨h_ne, h_calls⟩, h⟩

theorem chain_eq_zero {t : String} {n : Nat} (h_leaf : ∀ b, ¬ g.Calls signature b)
    (h : g.Chain n signature t) : n = 0 := by
  induction h with
  | here => rfl
  | call h_first h_last ih =>
    -- the chain before its last call is empty, so that call is one of the leaf
    obtain rfl := ih h_leaf
    obtain rfl := chain_zero_iff.1 h_first
    exact absurd h_last (h_leaf _)

/-- From a method that calls nothing, nothing is reached. -/
theorem levels_eq_nil (h_leaf : ∀ b, ¬ g.Calls signature b) (depth : Nat) :
    g.levels signature depth = [] := by
  rw [List.eq_nil_iff_forall_not_mem]
  rintro ⟨t, k⟩ h_mem
  obtain ⟨h_ne, h_distance, -⟩ := mem_levels.1 h_mem
  obtain rfl := chain_eq_zero h_leaf h_distance.1
  exact h_ne (distance_zero_iff.1 h_distance).symm

end CallGraph

/-! ## Answers -/

/-- The signature is called, but no callees are stored for it. -/
def CallGraph.OnlyCalled (g : CallGraph) (signature : String) : Prop :=
  g.contains signature = false ∧ ∃ caller, g.Calls caller signature

theorem CallGraph.occurs_iff {g : CallGraph} {signature : String} :
    g.Occurs signature ↔ g.contains signature = true ∨ g.OnlyCalled signature := by
  rw [Occurs, OnlyCalled]
  cases g.contains signature <;> simp

theorem CallGraph.OnlyCalled.callees?_eq_none {g : CallGraph} {signature : String}
    (h : g.OnlyCalled signature) : g.callees? signature = none := by
  rw [Option.eq_none_iff_forall_ne_some]
  intro callees h_callees
  have h_contains := contains_iff.2 ⟨callees, h_callees⟩
  rw [h.1] at h_contains
  cases h_contains

theorem CallGraph.OnlyCalled.not_calls {g : CallGraph} {signature : String}
    (h : g.OnlyCalled signature) (b : String) : ¬ g.Calls signature b := by
  rintro ⟨callees, h_callees, -⟩
  rw [h.callees?_eq_none] at h_callees
  cases h_callees

namespace Disk

variable {d : Disk} {path signature : String} {g : CallGraph} {n : Nat}

theorem listCallees_of_error {e : AnalysisError} (h_read : d.readGraph path = .error e) (h : 1 ≤ n) :
    d.listCallees path signature n = .error (.graph path e) := by
  have h_zero : (n == 0) = false := beq_eq_false_iff_ne.2 (by omega)
  rw [listCallees, h_zero, h_read]
  rfl

/-- For depth one, the list that is stored. -/
theorem listCallees_one (h_read : d.readGraph path = .ok g) :
    d.listCallees path signature 1 =
      (g.callees? signature).elim (.error (.unknownCaller signature)) (.ok <| .signatures ·) := by
  rw [listCallees, h_read]
  cases h_callees : g.callees? signature with
  | none => simp [bind, Except.bind, throw, throwThe, MonadExceptOf.throw, Except.mapError, h_callees]
  | some callees => simp [bind, Except.bind, pure, Except.pure, Except.mapError, h_callees]

/-- For more, a search. -/
theorem listCallees_of_two_le (h_read : d.readGraph path = .ok g) (h : 2 ≤ n) :
    d.listCallees path signature n =
      ((g.transitiveCallees signature n).mapError CommandError.notFound).map Answer.reached := by
  have h_zero : (n == 0) = false := beq_eq_false_iff_ne.2 (by omega)
  have h_one : (n == 1) = false := beq_eq_false_iff_ne.2 (by omega)
  rw [listCallees, h_zero, h_one, h_read]
  cases h_rows : g.transitiveCallees signature n <;>
    simp [bind, Except.bind, pure, Except.pure, Except.mapError, Except.map, h_rows]

theorem listCallees_one_eq_ok_iff {a : Answer} :
    d.listCallees path signature 1 = .ok a ↔ ∃ g callees, d.readGraph path = .ok g ∧
      g.callees? signature = some callees ∧ a = .signatures callees := by
  cases h_read : d.readGraph path with
  | error e => simp [listCallees_of_error h_read]
  | ok g =>
    rw [listCallees_one h_read]
    cases h_callees : g.callees? signature with
    | none => simp [h_callees]
    | some callees => simp [h_callees, eq_comm]

theorem listCallees_eq_ok_iff (h : 2 ≤ n) {a : Answer} :
    d.listCallees path signature n = .ok a ↔ ∃ g, d.readGraph path = .ok g ∧
      g.Occurs signature ∧ a = .reached (g.levels signature n) := by
  cases h_read : d.readGraph path with
  | error e => simp [listCallees_of_error h_read (Nat.le_of_succ_le h)]
  | ok g =>
    rw [listCallees_of_two_le h_read h]
    by_cases h_occurs : g.Occurs signature
    · simp [CallGraph.transitiveCallees_of_occurs h_occurs, Except.mapError, Except.map, h_occurs,
        eq_comm]
    · simp [CallGraph.transitiveCallees_of_not_occurs h_occurs, Except.mapError, Except.map, h_occurs]

def calleesOutcome (d : Disk) (path signature : String) (json : Bool) (elapsed depth : Nat) : Outcome :=
  .ofResult json elapsed ((Command.callees path signature depth).run d).2

end Disk

theorem Outcome.code_ofResult_eq_zero_iff {json : Bool} {elapsed : Nat}
    {result : Except CommandError Answer} :
    (ofResult json elapsed result).code = 0 ↔ ∃ a, result = .ok a := by
  cases result with
  | error e => simp [ofResult, ofError]
  | ok a => cases json <;> simp [ofResult, ofAnswer]

namespace Disk

variable {d : Disk} {path signature : String} {json : Bool} {elapsed n : Nat}

theorem code_calleesOutcome_one :
    (d.calleesOutcome path signature json elapsed 1).code = 0 ↔
      ∃ g, d.readGraph path = .ok g ∧ g.contains signature = true := by
  rw [calleesOutcome, Outcome.code_ofResult_eq_zero_iff]
  simp only [Command.run, listCallees_one_eq_ok_iff, CallGraph.contains_iff]
  constructor
  · rintro ⟨-, g, callees, h_read, h_callees, -⟩
    exact ⟨g, h_read, callees, h_callees⟩
  · rintro ⟨g, h_read, callees, h_callees⟩
    exact ⟨_, g, callees, h_read, h_callees, rfl⟩

theorem code_calleesOutcome (h : 2 ≤ n) :
    (d.calleesOutcome path signature json elapsed n).code = 0 ↔
      ∃ g, d.readGraph path = .ok g ∧ g.Occurs signature := by
  rw [calleesOutcome, Outcome.code_ofResult_eq_zero_iff]
  simp only [Command.run, listCallees_eq_ok_iff h]
  constructor
  · rintro ⟨-, g, h_read, h_occurs, -⟩
    exact ⟨g, h_read, h_occurs⟩
  · rintro ⟨g, h_read, h_occurs⟩
    exact ⟨_, g, h_read, h_occurs, rfl⟩

/-- Whenever the callees of a signature are listed for depth one, they are for every greater depth, and
there the signatures at depth one are the same but for the method itself. The other way round there is one
exception: a method that is only called is unknown for depth one, and calls nothing for a greater depth. -/
theorem callee_queries_agree (d : Disk) (path signature : String) (json : Bool) (elapsed : Nat) {n : Nat}
    (h_deep : 2 ≤ n) :
    ((d.calleesOutcome path signature json elapsed 1).code = 0 → ∃ callees rows,
      (Command.callees path signature 1).run d = (d, .ok (.signatures callees)) ∧
      (Command.callees path signature n).run d = (d, .ok (.reached rows)) ∧
      ∀ t, (t, 1) ∈ rows ↔ t ∈ callees ∧ t ≠ signature) ∧
    ((d.calleesOutcome path signature json elapsed n).code = 0 ↔
      (d.calleesOutcome path signature json elapsed 1).code = 0 ∨
        ∃ g, d.readGraph path = .ok g ∧ g.OnlyCalled signature) ∧
    ((∃ g, d.readGraph path = .ok g ∧ g.OnlyCalled signature) →
      (Command.callees path signature 1).run d = (d, .error (.unknownCaller signature)) ∧
      (Command.callees path signature n).run d = (d, .ok (.reached []))) := by
  refine ⟨fun h_code => ?_, ?_, ?_⟩
  · obtain ⟨g, h_read, h_contains⟩ := code_calleesOutcome_one.1 h_code
    obtain ⟨callees, h_callees⟩ := CallGraph.contains_iff.1 h_contains
    have h_one := listCallees_one_eq_ok_iff.2 ⟨g, callees, h_read, h_callees, rfl⟩
    have h_rows := (listCallees_eq_ok_iff h_deep).2 ⟨g, h_read, .inl h_contains, rfl⟩
    refine ⟨callees, g.levels signature n, congrArg (d, ·) h_one, congrArg (d, ·) h_rows, fun t => ?_⟩
    rw [CallGraph.mem_levels_one (Nat.le_of_succ_le h_deep), CallGraph.calls_iff_mem h_callees]
  · rw [code_calleesOutcome h_deep, code_calleesOutcome_one]
    simp only [CallGraph.occurs_iff, and_or_left, exists_or]
  · rintro ⟨g, h_read, h_only⟩
    have h_rows := (listCallees_eq_ok_iff h_deep).2 ⟨g, h_read, .inr h_only.2, rfl⟩
    rw [CallGraph.levels_eq_nil h_only.not_calls] at h_rows
    refine ⟨congrArg (d, ·) ?_, congrArg (d, ·) h_rows⟩
    rw [listCallees_one h_read, h_only.callees?_eq_none]
    rfl

namespace Echo

/-- A method that calls itself, and twice another one that calls nothing. -/
def graph : CallGraph := .ofEntries [("a.A.f()", ["a.B.g()", "a.A.f()", "a.B.g()"])]

def disk : Disk := ⟨"/work", .ofListing [("calls.json", some (.ofText (graph.render .json)))], []⟩

theorem readGraph_disk : disk.readGraph "calls.json" = .ok graph :=
  readGraph_of_text (by decide +kernel) (text_of_readText (by decide +kernel))

theorem callees?_f : graph.callees? "a.A.f()" = some ["a.B.g()", "a.A.f()", "a.B.g()"] := by
  decide +kernel

theorem onlyCalled_g : graph.OnlyCalled "a.B.g()" :=
  ⟨by decide +kernel, "a.A.f()", _, callees?_f, by decide⟩

end Echo

/-- Both queries list `g()` for the method that calls it, and only one of them knows `g()`. -/
theorem echo_callees_by_both :
    (∃ rows, (Command.callees "calls.json" "a.A.f()" 1).run Echo.disk =
        (Echo.disk, .ok (.signatures ["a.B.g()", "a.A.f()", "a.B.g()"])) ∧
      (Command.callees "calls.json" "a.A.f()" 3).run Echo.disk = (Echo.disk, .ok (.reached rows)) ∧
      ("a.B.g()", 1) ∈ rows ∧ ("a.A.f()", 1) ∉ rows) ∧
    (Echo.disk.calleesOutcome "calls.json" "a.B.g()" false 0 3).code = 0 ∧
    Echo.disk.calleesOutcome "calls.json" "a.B.g()" false 0 1 =
      ⟨1, "", "Error: Unknown caller a.B.g()\n"⟩ := by
  obtain ⟨h_direct, -, -⟩ :=
    callee_queries_agree Echo.disk "calls.json" "a.A.f()" false 0 (n := 3) (by decide)
  obtain ⟨-, h_code, h_leaf⟩ :=
    callee_queries_agree Echo.disk "calls.json" "a.B.g()" false 0 (n := 3) (by decide)
  have h_only : ∃ g, Echo.disk.readGraph "calls.json" = .ok g ∧ g.OnlyCalled "a.B.g()" :=
    ⟨_, Echo.readGraph_disk, Echo.onlyCalled_g⟩
  refine ⟨?_, h_code.2 (.inr h_only), ?_⟩
  · obtain ⟨callees, rows, h_one, h_rows, h_mem⟩ :=
      h_direct (code_calleesOutcome_one.2 ⟨_, Echo.readGraph_disk, by decide +kernel⟩)
    have h_stored : (Command.callees "calls.json" "a.A.f()" 1).run Echo.disk =
        (Echo.disk, .ok (.signatures ["a.B.g()", "a.A.f()", "a.B.g()"])) :=
      congrArg (Echo.disk, ·)
        (listCallees_one_eq_ok_iff.2 ⟨_, _, Echo.readGraph_disk, Echo.callees?_f, rfl⟩)
    rw [h_stored] at h_one
    cases h_one
    exact ⟨rows, h_stored, h_rows, (h_mem _).2 (by decide), fun h_self => ((h_mem _).1 h_self).2 rfl⟩
  · rw [calleesOutcome, (h_leaf h_only).1]
    decide +kernel

/-- The two queries do not succeed for the same signatures, and do not list the same callees: not for a
method that is only called, and not for one that calls itself. -/
theorem leaves_and_recursion_differ :
    (¬ ∀ (d : Disk) (path signature : String) (n : Nat), 2 ≤ n →
      ((d.calleesOutcome path signature false 0 1).code = 0 ↔
        (d.calleesOutcome path signature false 0 n).code = 0)) ∧
    ¬ ∀ (d : Disk) (path signature : String) (n : Nat) (callees : List String)
        (rows : List (String × Nat)), 2 ≤ n →
      (Command.callees path signature 1).run d = (d, .ok (.signatures callees)) →
      (Command.callees path signature n).run d = (d, .ok (.reached rows)) →
        ∀ t, t ∈ callees ↔ (t, 1) ∈ rows := by
  constructor
  · intro h_same
    have h_code := (h_same Echo.disk "calls.json" "a.B.g()" 2 (Nat.le_refl 2)).2
      ((code_calleesOutcome (Nat.le_refl 2)).2 ⟨_, Echo.readGraph_disk, .inr Echo.onlyCalled_g.2⟩)
    obtain ⟨g, h_read, h_contains⟩ := code_calleesOutcome_one.1 h_code
    obtain rfl := Except.ok.inj (Echo.readGraph_disk.symm.trans h_read)
    rw [Echo.onlyCalled_g.1] at h_contains
    cases h_contains
  · intro h_same
    have h_one := listCallees_one_eq_ok_iff.2 ⟨_, _, Echo.readGraph_disk, Echo.callees?_f, rfl⟩
    have h_rows := (listCallees_eq_ok_iff (Nat.le_refl 2)).2
      ⟨_, Echo.readGraph_disk, .inl (CallGraph.contains_iff.2 ⟨_, Echo.callees?_f⟩), rfl⟩
    have h_self := (h_same Echo.disk "calls.json" "a.A.f()" 2 _ _ (Nat.le_refl 2)
      (congrArg (Echo.disk, ·) h_one) (congrArg (Echo.disk, ·) h_rows) "a.A.f()").1 (by decide)
    exact (CallGraph.mem_levels.1 h_self).1 rfl

end Disk

end JavaCallGraph
