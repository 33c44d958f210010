import Mathlib.Data.List.Induction

/-!
# Entries that last

In a list that is a history, an entry lasts as long as no later one ends what
it has begun.  A register that each entry sets, clears or leaves alone holds at
the end what lasts.
-/

namespace Watchface

section Lasts

variable {α : Type} {begins ends : α → Prop} {list : List α} {last : α}

/-- Some entry begins what no entry behind it ends. -/
def Lasts (begins ends : α → Prop) (list : List α) : Prop :=
  ∃ before entry behind, list = before ++ entry :: behind ∧ begins entry ∧
    ∀ later ∈ behind, ¬ ends later

theorem not_lasts_nil : ¬ Lasts begins ends [] := by
  rintro ⟨before, entry, behind, hlist, -⟩
  simp at hlist

theorem lasts_concat_iff :
    Lasts begins ends (list ++ [last]) ↔ begins last ∨ (¬ ends last ∧ Lasts begins ends list) := by
  constructor
  · rintro ⟨before, entry, behind, hlist, hbegins, hbehind⟩
    rcases List.eq_nil_or_concat behind with hnil | ⟨middle, final, hconcat⟩
    · rw [hnil] at hlist
      obtain ⟨-, hlast⟩ := List.append_inj' hlist rfl
      rw [List.singleton_inj] at hlast
      exact .inl (hlast ▸ hbegins)
    · rw [hconcat, List.concat_eq_append] at hlist hbehind
      rw [← List.cons_append, ← List.append_assoc] at hlist
      obtain ⟨hfront, hlast⟩ := List.append_inj' hlist rfl
      rw [List.singleton_inj] at hlast
      refine .inr ⟨?_, before, entry, middle, hfront, hbegins, ?_⟩
      · rw [hlast]
        exact hbehind final (List.mem_append_right middle (List.mem_singleton_self final))
      · intro later hmem
        exact hbehind later (List.mem_append_left [final] hmem)
  · rintro (hbegins | ⟨hends, before, entry, behind, hlist, hbegins, hbehind⟩)
    · exact ⟨list, last, [], rfl, hbegins, fun later hmem => absurd hmem List.not_mem_nil⟩
    · refine ⟨before, entry, behind ++ [last], by simp [hlist], hbegins, ?_⟩
      rw [List.forall_mem_append, List.forall_mem_singleton]
      exact ⟨hbehind, hends⟩

end Lasts

/-- A register that is empty at first holds a value iff some entry has set it, for good. -/
theorem foldl_eq_some_iff_lasts {α κ : Type} {step : Option κ → α → Option κ}
    {sets ends : κ → α → Prop}
    (one : ∀ held entry value,
      step held entry = some value ↔ sets value entry ∨ (¬ ends value entry ∧ held = some value))
    (list : List α) (value : κ) :
    list.foldl step none = some value ↔ Lasts (sets value) (ends value) list := by
  -- the last entry has the last word, so the list is taken apart at its end
  induction list using List.reverseRecOn with
  | nil => simp [not_lasts_nil]
  | append_singleton list last ih =>
      rw [List.foldl_append, List.foldl_cons, List.foldl_nil, one, ih, lasts_concat_iff]

theorem getLast?_eq_some_of_forall {α : Type} {list : List α} {value : α}
    (all : ∀ entry ∈ list, entry = value) (mem : value ∈ list) : list.getLast? = some value := by
  cases hlast : list.getLast? with
  | none => exact absurd mem (List.getLast?_eq_none_iff.mp hlast ▸ List.not_mem_nil)
  | some last => rw [all last (List.mem_of_getLast? hlast)]

/-- A cell that each entry sets or leaves alone holds the last value that was set. -/
theorem foldl_eq_getLast?_or {σ α ν : Type} {step : σ → α → σ} {value? : α → Option ν}
    (cell : σ → Option ν)
    (one : ∀ state entry, cell (step state entry) = (value? entry).or (cell state))
    (list : List α) (state : σ) :
    cell (list.foldl step state) = (list.filterMap value?).getLast?.or (cell state) := by
  induction list using List.reverseRecOn with
  | nil => rfl
  | append_singleton list last ih =>
      rw [List.foldl_append, List.foldl_cons, List.foldl_nil, one, ih, List.filterMap_append,
        List.getLast?_append, Option.or_assoc]
      cases hlast : value? last <;> simp [hlast]

end Watchface
