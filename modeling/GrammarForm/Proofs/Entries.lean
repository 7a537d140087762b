import GrammarForm.Entries
import Mathlib.Data.List.Nodup

/-!
# Entries with distinct keys

A list of pairs in which no key occurs twice is already a table: reading its pairs as entries
changes nothing, and every pair is found under its key.

## Main results

* `Entries.distinct_eq_self` : pairs with distinct keys are their own entries.
* `Entries.get?_eq_some_of_mem` : with distinct keys, each pair is found.
* `Entries.has_eq_false_iff` : a key without a value is none of the keys.
* `Entries.get?_insert`, `Entries.has_insert` : giving a key a value changes that key alone.
* `Entries.get?_without`, `Entries.has_without_of_mem` : taking keys out leaves all others.
-/

namespace GrammarForm.Entries

variable {α : Type}

/-- A key that does not occur yet is added at the end. -/
theorem insert_of_notMem (key : String) (value : α) :
    (entries : Entries α) → key ∉ entries.map Prod.fst →
      insert key value entries = entries ++ [(key, value)]
  | [], _ => rfl
  | (k, v) :: rest, h => by
    rw [List.map_cons, List.mem_cons, not_or] at h
    rw [insert, if_neg (Ne.symm h.1), insert_of_notMem key value rest h.2, List.cons_append]

/-- **Distinct keys are kept as they are.** -/
theorem distinct_eq_self {pairs : List (String × α)} (h : (pairs.map Prod.fst).Nodup) :
    distinct pairs = pairs := by
  suffices key : ∀ (rest done : List (String × α)), ((done ++ rest).map Prod.fst).Nodup →
      rest.foldl (fun entries p => insert p.1 p.2 entries) done = done ++ rest from
    key pairs [] h
  intro rest
  induction rest with
  | nil => intro done _; rw [List.foldl_nil, List.append_nil]
  | cons p rest ih =>
    intro done hd
    have hp : p.1 ∉ done.map Prod.fst := by
      rw [List.map_append, List.nodup_append] at hd
      exact fun hmem => hd.2.2 _ hmem _ (List.mem_cons_self ..) rfl
    rw [List.foldl_cons, insert_of_notMem p.1 p.2 done hp, ih]
    · rw [List.append_assoc, List.singleton_append]
    · rwa [List.append_assoc, List.singleton_append]

/-- With distinct keys, the value of a pair is the value of its key. -/
theorem get?_eq_some_of_mem {key : String} {value : α} :
    {entries : Entries α} → (entries.map Prod.fst).Nodup → (key, value) ∈ entries →
      entries.get? key = some value
  | [], _, h => absurd h List.not_mem_nil
  | (k, v) :: rest, hn, hmem => by
    rw [List.map_cons, List.nodup_cons] at hn
    rcases List.mem_cons.mp hmem with h | h
    · cases h
      simp [get?]
    · have hk : key ≠ k := fun heq => hn.1 (List.mem_map.mpr ⟨(key, value), h, heq⟩)
      rw [get?, List.lookup_cons, beq_eq_false_iff_ne.mpr hk]
      exact get?_eq_some_of_mem hn.2 h

theorem mem_of_get?_eq_some {entries : Entries α} {key : String} {value : α}
    (h : entries.get? key = some value) : (key, value) ∈ entries := by
  obtain ⟨before, after, rfl, -⟩ := List.lookup_eq_some_iff.mp h
  exact List.mem_append_right _ (List.mem_cons_self ..)

/-- Entries with the same pairs for a key have the same value for it. -/
theorem get?_eq_get?_of_forall_mem_iff {entries entries' : Entries α}
    (hn : (entries.map Prod.fst).Nodup) (hn' : (entries'.map Prod.fst).Nodup) {key : String}
    (h : ∀ value, (key, value) ∈ entries ↔ (key, value) ∈ entries') :
    entries.get? key = entries'.get? key :=
  Option.ext fun value =>
    ⟨fun hv => get?_eq_some_of_mem hn' ((h value).mp (mem_of_get?_eq_some hv)),
      fun hv => get?_eq_some_of_mem hn ((h value).mpr (mem_of_get?_eq_some hv))⟩

/-- A key has no value exactly if it is none of the keys. -/
theorem has_eq_false_iff {entries : Entries α} {key : String} :
    entries.has key = false ↔ key ∉ entries.map Prod.fst := by
  rw [has, List.any_eq_false, List.mem_map]
  constructor
  · rintro h ⟨p, hp, rfl⟩
    exact h p hp (beq_self_eq_true _)
  · intro h p hp heq
    exact h ⟨p, hp, beq_iff_eq.mp heq⟩

/-- A key occurs exactly if it has a value. -/
theorem has_eq_isSome_get? (key : String) :
    (entries : Entries α) → entries.has key = (entries.get? key).isSome
  | [] => rfl
  | (k, v) :: rest => by
    have ih := has_eq_isSome_get? key rest
    rw [has] at ih
    rw [has, get?, List.any_cons, List.lookup_cons, ih, Bool.beq_comm]
    cases key == k <;> rfl

theorem get?_eq_none_iff {entries : Entries α} {key : String} :
    entries.get? key = none ↔ key ∉ entries.map Prod.fst := by
  rw [← has_eq_false_iff, has_eq_isSome_get?, Option.isSome_eq_false_iff,
    Option.isNone_iff_eq_none]

/-! ### Giving a key a value -/

/-- A value that is given to a key is found there, and all other keys keep theirs. -/
theorem get?_insert (key : String) (value : α) (k : String) :
    (entries : Entries α) →
      (insert key value entries).get? k = if k = key then some value else entries.get? k
  | [] => by
    by_cases hk : k = key
    · rw [if_pos hk, hk, insert, get?, List.lookup_cons_self]
    · rw [if_neg hk, insert, get?, List.lookup_cons, beq_eq_false_iff_ne.mpr hk]
      rfl
  | (k', v') :: rest => by
    have ih := get?_insert key value k rest
    rw [get?] at ih
    rw [insert, get?, get?]
    by_cases hk' : k' = key
    · rw [if_pos hk', hk', List.lookup_cons, List.lookup_cons]
      by_cases hk : k = key
      · rw [if_pos hk, beq_iff_eq.mpr hk]
      · rw [if_neg hk, beq_eq_false_iff_ne.mpr hk]
    · rw [if_neg hk', List.lookup_cons, List.lookup_cons, ih]
      cases hbeq : k == k' with
      | false => rfl
      | true =>
        have hk : k ≠ key := fun h => hk' ((beq_iff_eq.mp hbeq).symm.trans h)
        simp only [if_neg hk]

/-- A key has a value afterwards if it is the given one or had a value before. -/
theorem has_insert (key : String) (value : α) (k : String) (entries : Entries α) :
    (insert key value entries).has k = (k == key || entries.has k) := by
  rw [has_eq_isSome_get?, has_eq_isSome_get?, get?_insert]
  by_cases hk : k = key
  · rw [if_pos hk, beq_iff_eq.mpr hk]
    rfl
  · rw [if_neg hk, beq_eq_false_iff_ne.mpr hk, Bool.false_or]

/-! ### Taking keys out -/

theorem get?_without {keys : List String} {key : String} (h : key ∉ keys) :
    (entries : Entries α) → (without keys entries).get? key = entries.get? key
  | [] => rfl
  | (k, v) :: rest => by
    have ih := get?_without h rest
    rw [get?, without] at ih
    rw [get?, without, get?, List.filter_cons]
    by_cases hk : key = k
    · subst hk
      simp [h]
    · split
      next => rw [List.lookup_cons, List.lookup_cons, ih]; rfl
      next => rw [ih, List.lookup_cons, beq_eq_false_iff_ne.mpr hk]; rfl

theorem has_without_of_mem {keys : List String} {key : String} (h : key ∈ keys)
    (entries : Entries α) : (without keys entries).has key = false := by
  rw [has_eq_false_iff, List.mem_map]
  rintro ⟨p, hp, rfl⟩
  have hkept := (List.mem_filter.mp hp).2
  simp [h] at hkept

end GrammarForm.Entries
