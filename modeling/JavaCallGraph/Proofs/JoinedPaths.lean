import JavaCallGraph.Endpoint
import JavaCallGraph.Proofs.Text
import Mathlib.Data.List.DropRight

/-!
# Joined paths

The path of a handler is put below that of its controller. Where both have slashes at the seam, or neither
has, one slash stands there, so it does not matter which of three paths are joined first.

* `joinPaths_of_trimmed` — what joining gives, read off the slashes at the seam.
* `slashes_or_core` — a path is made of slashes only, or has something between its outer slashes.
* `joinPaths_assoc`, `joinPaths_composes` — three paths, and the form of the result.
-/

namespace JavaCallGraph

def slashes (n : Nat) : String := String.ofList (List.replicate n '/')

@[simp] theorem toList_slashes (n : Nat) : (slashes n).toList = List.replicate n '/' := by
  simp [slashes]

@[simp] theorem slashes_eq_empty_iff {n : Nat} : slashes n = "" ↔ n = 0 := by
  simp [slashes]

theorem slashes_add (m n : Nat) : slashes m ++ slashes n = slashes (m + n) := by
  apply String.toList_injective
  simp

/-! ## The seam -/

/-- Only the slashes at the seam are taken away. -/
theorem joinPaths_of_trimmed {front back : String} (m n : Nat) (h_ne : front ++ slashes m ≠ "")
    (h_front : front.toList.getLast? ≠ some '/') (h_back : back.toList.head? ≠ some '/') :
    joinPaths (front ++ slashes m) (slashes n ++ back) = front ++ "/" ++ back := by
  have h_start : Text.dropTrailing '/' (front ++ slashes m).toList = front.toList := by
    have h_slashes : ∀ c ∈ (List.replicate m '/').reverse, (c == '/') = true := by simp
    rw [String.toList_append, toList_slashes, Text.dropTrailing, List.reverse_append,
      List.dropWhile_append_of_pos h_slashes]
    refine Text.dropTrailing_eq_self fun c h_c h_eq => h_front ?_
    rw [← h_eq]
    exact h_c
  have h_rest : (slashes n ++ back).toList.dropWhile (· == '/') = back.toList := by
    have h_slashes : ∀ c ∈ List.replicate n '/', (c == '/') = true := by simp
    rw [String.toList_append, toList_slashes, List.dropWhile_append_of_pos h_slashes]
    cases h_chars : back.toList with
    | nil => rfl
    | cons c cs =>
      rw [h_chars, List.head?_cons] at h_back
      exact List.dropWhile_cons_of_neg (by simpa using h_back)
  rw [joinPaths, if_neg (by simpa using h_ne), h_start, h_rest]
  simp

theorem joinPaths_empty (b : String) : joinPaths "" b = b := rfl

/-! ## Slashes around a path -/

theorem exists_front (a : String) :
    ∃ front m, a = front ++ slashes m ∧ front.toList.getLast? ≠ some '/' := by
  refine ⟨String.ofList (a.toList.rdropWhile (· == '/')),
    (a.toList.rtakeWhile (· == '/')).length, ?_, ?_⟩
  · have h_slashes : a.toList.rtakeWhile (· == '/') =
        List.replicate (a.toList.rtakeWhile (· == '/')).length '/' :=
      List.eq_replicate_of_mem fun c h_c => by simpa using List.mem_rtakeWhile_imp h_c
    apply String.toList_injective
    rw [String.toList_append, toList_slashes, ← h_slashes, String.toList_ofList,
      List.rdropWhile_append_rtakeWhile]
  · intro h_last
    rw [String.toList_ofList] at h_last
    obtain ⟨h_ne, h_eq⟩ := List.mem_getLast?_eq_getLast h_last
    exact List.rdropWhile_last_not _ _ h_ne (by simp [← h_eq])

theorem exists_back (b : String) :
    ∃ n back, b = slashes n ++ back ∧ back.toList.head? ≠ some '/' := by
  refine ⟨(b.toList.takeWhile (· == '/')).length, String.ofList (b.toList.dropWhile (· == '/')), ?_, ?_⟩
  · have h_slashes : b.toList.takeWhile (· == '/') =
        List.replicate (b.toList.takeWhile (· == '/')).length '/' :=
      List.eq_replicate_of_mem fun c h_c => by simpa using List.mem_takeWhile_imp h_c
    apply String.toList_injective
    rw [String.toList_append, toList_slashes, ← h_slashes, String.toList_ofList,
      List.takeWhile_append_dropWhile]
  · intro h_head
    have h_slash := List.head?_dropWhile_not (· == '/') b.toList
    rw [String.toList_ofList] at h_head
    simp [h_head] at h_slash

/-- A text with no slash at its ends. -/
structure IsCore (core : String) : Prop where
  ne_empty : core ≠ ""
  head_ne : core.toList.head? ≠ some '/'
  last_ne : core.toList.getLast? ≠ some '/'

namespace IsCore

variable {core : String}

theorem head?_append (h : IsCore core) (more : String) : (core ++ more).toList.head? ≠ some '/' := by
  obtain ⟨c, cs, h_chars⟩ := List.exists_cons_of_ne_nil (mt String.toList_eq_nil_iff.1 h.ne_empty)
  have h_head := h.head_ne
  rw [h_chars] at h_head
  simpa [h_chars] using h_head

theorem getLast?_append (h : IsCore core) (before : String) :
    (before ++ core).toList.getLast? ≠ some '/' := by
  have h_ne : core.toList ≠ [] := mt String.toList_eq_nil_iff.1 h.ne_empty
  rw [String.toList_append, List.getLast?_append_of_ne_nil _ h_ne]
  exact h.last_ne

end IsCore

/-- A path is made of slashes only, or a core stands between its outer slashes. -/
theorem slashes_or_core (b : String) :
    (∃ n, b = slashes n) ∨ ∃ m core n, b = slashes m ++ core ++ slashes n ∧ IsCore core := by
  obtain ⟨front, n, rfl, h_front⟩ := exists_front b
  obtain ⟨m, core, rfl, h_head⟩ := exists_back front
  by_cases h_empty : core = ""
  · refine .inl ⟨m + n, ?_⟩
    rw [h_empty, String.append_empty, slashes_add]
  · refine .inr ⟨m, core, n, rfl, h_empty, h_head, fun h_last => h_front ?_⟩
    -- the front part ends as its core does
    rw [String.toList_append, List.getLast?_append, h_last]
    rfl

/-! ## Three paths -/

theorem joinPaths_assoc (a b c : String) :
    joinPaths (joinPaths a b) c = joinPaths a (joinPaths b c) := by
  by_cases h_a : a = ""
  · rw [h_a, joinPaths_empty, joinPaths_empty]
  obtain ⟨front, k, rfl, h_front⟩ := exists_front a
  obtain ⟨l, back, rfl, h_back⟩ := exists_back c
  rcases slashes_or_core b with ⟨n, rfl⟩ | ⟨m, core, n, rfl, h_core⟩
  · -- the middle path has slashes only: they go to the front on the left and to the back on the right
    have h_left : joinPaths (front ++ slashes k) (slashes n) = front ++ slashes 1 := by
      have h_join : joinPaths (front ++ slashes k) (slashes n ++ "") = front ++ "/" ++ "" :=
        joinPaths_of_trimmed k n h_a h_front (by simp)
      rwa [String.append_empty, String.append_empty] at h_join
    have h_right : ∃ j, joinPaths (slashes n) (slashes l ++ back) = slashes j ++ back := by
      cases n with
      | zero => exact ⟨l, rfl⟩
      | succ n =>
        refine ⟨1, ?_⟩
        have h_join : joinPaths ("" ++ slashes (n + 1)) (slashes l ++ back) = "" ++ "/" ++ back :=
          joinPaths_of_trimmed (n + 1) l (by simp) (by simp) h_back
        rwa [String.empty_append] at h_join
    obtain ⟨j, h_right⟩ := h_right
    rw [h_left, h_right, joinPaths_of_trimmed 1 l (by simp) h_front h_back,
      joinPaths_of_trimmed k j h_a h_front h_back]
  · -- the middle path keeps its core, and neither seam reaches beyond the slashes around it
    have h_left : joinPaths (front ++ slashes k) (slashes m ++ (core ++ slashes n)) =
        front ++ "/" ++ (core ++ slashes n) :=
      joinPaths_of_trimmed k m h_a h_front (h_core.head?_append _)
    have h_right : joinPaths (slashes m ++ core ++ slashes n) (slashes l ++ back) =
        slashes m ++ core ++ "/" ++ back :=
      joinPaths_of_trimmed n l (by simp [h_core.ne_empty]) (h_core.getLast?_append _) h_back
    calc joinPaths (joinPaths (front ++ slashes k) (slashes m ++ core ++ slashes n)) (slashes l ++ back)
        = joinPaths (front ++ "/" ++ core ++ slashes n) (slashes l ++ back) := by
          simp only [String.append_assoc] at h_left ⊢
          rw [h_left]
      _ = front ++ "/" ++ core ++ "/" ++ back :=
          joinPaths_of_trimmed n l (by simp) (h_core.getLast?_append _) h_back
      _ = front ++ "/" ++ (core ++ ("/" ++ back)) := by
          simp only [String.append_assoc]
      _ = joinPaths (front ++ slashes k) (slashes m ++ (core ++ ("/" ++ back))) :=
          (joinPaths_of_trimmed k m h_a h_front (h_core.head?_append _)).symm
      _ = joinPaths (front ++ slashes k) (joinPaths (slashes m ++ core ++ slashes n) (slashes l ++ back)) := by
          rw [h_right]
          simp only [String.append_assoc]

/-- Paths may be joined in any grouping, the empty path changes nothing in front, and below any other path
stands one slash between what the slashes at the seam leave of the two. -/
theorem joinPaths_composes (a b c : String) :
    joinPaths (joinPaths a b) c = joinPaths a (joinPaths b c) ∧ joinPaths "" b = b ∧
    (a ≠ "" → ∃ front back m n, a = front ++ slashes m ∧ front.toList.getLast? ≠ some '/' ∧
      b = slashes n ++ back ∧ back.toList.head? ≠ some '/' ∧ joinPaths a b = front ++ "/" ++ back) := by
  refine ⟨joinPaths_assoc a b c, joinPaths_empty b, fun h_a => ?_⟩
  obtain ⟨front, m, rfl, h_front⟩ := exists_front a
  obtain ⟨n, back, rfl, h_back⟩ := exists_back b
  exact ⟨front, back, m, n, rfl, h_front, rfl, h_back, joinPaths_of_trimmed m n h_a h_front h_back⟩

/-- Four slashes at a seam leave one, and a path of slashes between two others none of its own. -/
theorem api_paths_joined :
    "/api//" ≠ "" ∧ joinPaths "/api//" "//owners" = "/api/owners" ∧
    joinPaths (joinPaths "/api//" "//") "owners" = joinPaths "/api//" (joinPaths "//" "owners") ∧
    ∃ front back m n, "/api//" = front ++ slashes m ∧ front.toList.getLast? ≠ some '/' ∧
      "//owners" = slashes n ++ back ∧ back.toList.head? ≠ some '/' ∧
      joinPaths "/api//" "//owners" = front ++ "/" ++ back := by
  have h_ne : "/api//" ≠ "" := by decide
  refine ⟨h_ne, by decide +kernel, (joinPaths_composes "/api//" "//" "owners").1, ?_⟩
  exact (joinPaths_composes "/api//" "//owners" "").2.2 h_ne

end JavaCallGraph
