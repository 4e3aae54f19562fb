import Mathlib.Data.List.Basic
import Mathlib.Data.List.Induction

/-!
# Lists without later duplicates

`List.eraseDupsBy` keeps the first of all elements that count as the same. Here two elements count as the
same if they have the same key; for `List.eraseDups` an element is its own key.

* `mem_of_mem_eraseDupsBy`, `exists_mem_eraseDupsBy` — what is kept, and what stands for the rest.
* `find?_of_mem_eraseDupsBy` — what is kept is the first with its key.
* `pairwise_eraseDupsBy` — no key is kept twice.
* `pairwise_idxOf_eraseDups` — what is kept stands in the order of its first occurrences.
-/

namespace JavaCallGraph

/-- Induction along `List.eraseDupsBy`: what follows an element is shown for the elements that do not
count as the same. -/
theorem eraseDupsBy_induction {α : Type} (r : α → α → Bool) {motive : List α → Prop} (nil : motive [])
    (cons : ∀ b rest, motive (rest.filter fun c => decide (r c b = false)) → motive (b :: rest))
    (as : List α) : motive as := by
  induction h_length : as.length using Nat.strongRecOn generalizing as with
  | _ n ih =>
    cases as with
    | nil => exact nil
    | cons b rest =>
      have h_shorter := List.length_filter_le (fun c => decide (r c b = false)) rest
      rw [List.length_cons] at h_length
      exact cons b rest (ih _ (by omega) _ rfl)

theorem mem_of_mem_eraseDupsBy {α : Type} {r : α → α → Bool} {a : α} {as : List α}
    (h : a ∈ as.eraseDupsBy r) : a ∈ as := by
  induction as using eraseDupsBy_induction r with
  | nil => cases h
  | cons b rest ih =>
    rw [List.eraseDupsBy_cons] at h
    rcases List.mem_cons.1 h with rfl | h_later
    · exact List.mem_cons_self
    · exact List.mem_cons_of_mem _ (List.mem_filter.1 (ih h_later)).1

section Keys

variable {α β : Type} [BEq β] [LawfulBEq β] {f : α → β}

/-- An element that is kept after another one has another key. -/
theorem ne_of_mem_eraseDupsBy_filter {a b : α} {rest : List α}
    (h : a ∈ (rest.filter fun c => decide ((f c == f b) = false)).eraseDupsBy fun a b => f a == f b) :
    f a ≠ f b := by
  simpa using (List.mem_filter.1 (mem_of_mem_eraseDupsBy h)).2

/-- What is left after erasing later duplicates of a key is the first element with its key. -/
theorem find?_of_mem_eraseDupsBy {a : α} {as : List α} (h : a ∈ as.eraseDupsBy fun a b => f a == f b) :
    as.find? (fun b => f b == f a) = some a := by
  induction as using eraseDupsBy_induction (fun a b => f a == f b) with
  | nil => cases h
  | cons b rest ih =>
    rw [List.eraseDupsBy_cons] at h
    rcases List.mem_cons.1 h with rfl | h_later
    · simp
    · have h_key := ne_of_mem_eraseDupsBy_filter h_later
      -- what the filter leaves out has another key than `a`
      have h_same : (fun x => decide ((decide ((f x == f b) = false) = true) ∧ (f x == f a) = true)) =
          fun x => f x == f a := by
        funext x
        by_cases h_x : f x = f a
        · simp [h_x, h_key]
        · simp [h_x]
      have h_find := ih h_later
      rw [List.find?_filter, h_same] at h_find
      simpa [List.find?_cons, Ne.symm h_key] using h_find

/-- Every key is kept. -/
theorem exists_mem_eraseDupsBy {a : α} {as : List α} (h : a ∈ as) :
    ∃ b ∈ as.eraseDupsBy fun a b => f a == f b, f b = f a := by
  induction as using eraseDupsBy_induction (fun a b => f a == f b) with
  | nil => cases h
  | cons b rest ih =>
    rw [List.eraseDupsBy_cons]
    by_cases h_key : f a = f b
    · exact ⟨b, List.mem_cons_self, h_key.symm⟩
    · have h_rest : a ∈ rest.filter fun c => decide ((f c == f b) = false) := by
        rcases List.mem_cons.1 h with rfl | h
        · exact absurd rfl h_key
        · exact List.mem_filter.2 ⟨h, by simpa using h_key⟩
      obtain ⟨c, hc, h_c⟩ := ih h_rest
      exact ⟨c, List.mem_cons_of_mem _ hc, h_c⟩

/-- No key is kept twice. -/
theorem pairwise_eraseDupsBy (as : List α) :
    (as.eraseDupsBy fun a b => f a == f b).Pairwise fun a b => f a ≠ f b := by
  induction as using eraseDupsBy_induction (fun a b => f a == f b) with
  | nil => exact .nil
  | cons b rest ih =>
    rw [List.eraseDupsBy_cons]
    exact List.pairwise_cons.2 ⟨fun a ha => Ne.symm (ne_of_mem_eraseDupsBy_filter ha), ih⟩

end Keys

/-! ## The order of first occurrences -/

section FirstOccurrences

variable {α : Type} [BEq α] [LawfulBEq α]

theorem eraseDups_concat_of_mem {as : List α} {a : α} (h : a ∈ as) :
    (as ++ [a]).eraseDups = as.eraseDups := by
  simp [List.eraseDups_append, List.removeAll, h]

theorem eraseDups_concat_of_notMem {as : List α} {a : α} (h : a ∉ as) :
    (as ++ [a]).eraseDups = as.eraseDups ++ [a] := by
  simp [List.eraseDups_append, List.removeAll, h, List.eraseDups_cons]

/-- What stays after erasing later duplicates stands in the order of its first occurrences. -/
theorem pairwise_idxOf_eraseDups (as : List α) :
    as.eraseDups.Pairwise fun a b => as.idxOf a < as.idxOf b := by
  induction as using List.reverseRecOn with
  | nil => exact .nil
  | append_singleton as c ih =>
    -- an element that has been read keeps its first place
    have h_place : ∀ a ∈ as.eraseDups, (as ++ [c]).idxOf a = as.idxOf a := fun a h_a =>
      List.idxOf_append_of_mem (List.mem_eraseDups.1 h_a)
    have h_read : as.eraseDups.Pairwise fun a b => (as ++ [c]).idxOf a < (as ++ [c]).idxOf b := by
      refine ih.imp_of_mem fun h_a h_b h_lt => ?_
      rwa [h_place _ h_a, h_place _ h_b]
    by_cases h_c : c ∈ as
    · rwa [eraseDups_concat_of_mem h_c]
    · -- a new one comes after all of them
      rw [eraseDups_concat_of_notMem h_c]
      refine List.pairwise_append.2 ⟨h_read, List.pairwise_singleton _ _, fun a h_a b h_b => ?_⟩
      have h_lt : as.idxOf a < as.length := List.idxOf_lt_length_iff.2 (List.mem_eraseDups.1 h_a)
      rw [List.mem_singleton.1 h_b, h_place a h_a, List.idxOf_append_of_notMem h_c]
      omega

end FirstOccurrences

end JavaCallGraph
