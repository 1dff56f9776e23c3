import Mathlib.Order.Lattice
import Mathlib.Data.List.Nodup

/-!
# Vectors sorted by key

A map kept as a vector of entries in strictly increasing key order.  The order
is a field of the structure, so every vector has at most one entry for a key,
and the entries are visited in key order.
-/

namespace Sm7225
namespace Lib

/-- A map whose entries stand in strictly increasing key order. -/
structure KeyedVector (κ : Type) (ν : Type) [LinearOrder κ] where
  entries : List (κ × ν)
  sorted : entries.Pairwise (fun p q => p.1 < q.1)

namespace KeyedVector

variable {κ ν : Type} [LinearOrder κ]

/-!
# Insertion into sorted entries
-/

def insertEntry (k : κ) (v : ν) : List (κ × ν) -> List (κ × ν)
  | [] => [(k, v)]
  | p :: rest =>
      if k < p.1 then (k, v) :: p :: rest
      else if p.1 < k then p :: insertEntry k v rest
      else (k, v) :: rest

theorem mem_insertEntry {k : κ} {v : ν} {l : List (κ × ν)}
    (hl : l.Pairwise (fun p q => p.1 < q.1)) (p : κ × ν) :
    p ∈ insertEntry k v l <-> p = (k, v) ∨ (p ∈ l ∧ p.1 ≠ k) := by
  induction l with
  | nil => simp [insertEntry]
  | cons q rest ih =>
      have hrest := List.pairwise_cons.mp hl
      unfold insertEntry
      split
      next hlt =>
          have hne : forall r, r ∈ q :: rest -> r.1 ≠ k := by
            intro r hr
            rcases List.mem_cons.mp hr with rfl | hr
            · exact ne_of_gt hlt
            · exact ne_of_gt (lt_trans hlt (hrest.1 r hr))
          rw [List.mem_cons]
          constructor
          · rintro (hp | hp)
            · exact Or.inl hp
            · exact Or.inr ⟨hp, hne p hp⟩
          · rintro (hp | hp)
            · exact Or.inl hp
            · exact Or.inr hp.1
      next hge =>
          split
          next hlt =>
              rw [List.mem_cons, ih hrest.2, List.mem_cons]
              constructor
              · rintro (rfl | hp | hp)
                · exact Or.inr ⟨Or.inl rfl, ne_of_lt hlt⟩
                · exact Or.inl hp
                · exact Or.inr ⟨Or.inr hp.1, hp.2⟩
              · rintro (hp | ⟨rfl | hp, hne⟩)
                · exact Or.inr (Or.inl hp)
                · exact Or.inl rfl
                · exact Or.inr (Or.inr ⟨hp, hne⟩)
          next hge' =>
              have hk : q.1 = k := le_antisymm (not_lt.mp hge) (not_lt.mp hge')
              rw [List.mem_cons, List.mem_cons]
              constructor
              · rintro (hp | hp)
                · exact Or.inl hp
                · refine Or.inr ⟨Or.inr hp, ?_⟩
                  rw [← hk]
                  exact ne_of_gt (hrest.1 p hp)
              · rintro (hp | ⟨rfl | hp, hne⟩)
                · exact Or.inl hp
                · exact absurd hk hne
                · exact Or.inr hp

theorem pairwise_insertEntry {k : κ} {v : ν} {l : List (κ × ν)}
    (hl : l.Pairwise (fun p q => p.1 < q.1)) :
    (insertEntry k v l).Pairwise (fun p q => p.1 < q.1) := by
  induction l with
  | nil => simp [insertEntry]
  | cons q rest ih =>
      have hrest := List.pairwise_cons.mp hl
      unfold insertEntry
      split
      next hlt =>
          refine List.pairwise_cons.mpr ⟨?_, hl⟩
          intro r hr
          rcases List.mem_cons.mp hr with rfl | hr
          · exact hlt
          · exact lt_trans hlt (hrest.1 r hr)
      next hge =>
          split
          next hlt =>
              refine List.pairwise_cons.mpr ⟨?_, ih hrest.2⟩
              intro r hr
              rcases (mem_insertEntry hrest.2 r).mp hr with rfl | hr
              · exact hlt
              · exact hrest.1 r hr.1
          next hge' =>
              have hk : q.1 = k := le_antisymm (not_lt.mp hge) (not_lt.mp hge')
              refine List.pairwise_cons.mpr ⟨?_, hrest.2⟩
              intro r hr
              rw [← hk]
              exact hrest.1 r hr

/-!
# Operations
-/

def empty : KeyedVector κ ν where
  entries := []
  sorted := List.Pairwise.nil

/-- Set the value of a key. -/
def add (m : KeyedVector κ ν) (k : κ) (v : ν) : KeyedVector κ ν where
  entries := insertEntry k v m.entries
  sorted := pairwise_insertEntry m.sorted

def remove (m : KeyedVector κ ν) (k : κ) : KeyedVector κ ν where
  entries := m.entries.filter (fun p => p.1 ≠ k)
  sorted := m.sorted.filter _

def find? (m : KeyedVector κ ν) (k : κ) : Option ν :=
  (m.entries.find? (fun p => p.1 = k)).map Prod.snd

def values (m : KeyedVector κ ν) : List ν :=
  m.entries.map Prod.snd

def keys (m : KeyedVector κ ν) : List κ :=
  m.entries.map Prod.fst

/-!
# Entries after an operation
-/

theorem nodup_keys (m : KeyedVector κ ν) : m.keys.Nodup := by
  have hlt : m.keys.Pairwise (· < ·) := List.pairwise_map.mpr m.sorted
  exact hlt.imp (fun h => ne_of_lt h)

theorem value_unique (m : KeyedVector κ ν) {k : κ} {v w : ν}
    (hv : (k, v) ∈ m.entries) (hw : (k, w) ∈ m.entries) : v = w := by
  have hpair : (k, v) = (k, w) :=
    List.inj_on_of_nodup_map m.nodup_keys hv hw rfl
  exact congrArg Prod.snd hpair

@[simp] theorem find_eq_some (m : KeyedVector κ ν) (k : κ) (v : ν) :
    m.find? k = some v <-> (k, v) ∈ m.entries := by
  unfold find?
  constructor
  · intro h
    rcases Option.map_eq_some_iff.mp h with ⟨p, hp, hv⟩
    have hkey : p.1 = k := by simpa using List.find?_some hp
    have hmem := List.mem_of_find?_eq_some hp
    rw [← hkey, ← hv]
    exact hmem
  · intro h
    cases hf : m.entries.find? (fun p => p.1 = k) with
    | none =>
        have := List.find?_eq_none.mp hf (k, v) h
        simp at this
    | some p =>
        have hkey : p.1 = k := by simpa using List.find?_some hf
        have hmem := List.mem_of_find?_eq_some hf
        have hpk : (k, p.2) ∈ m.entries := by
          rw [← hkey]
          exact hmem
        simp [m.value_unique hpk h]

theorem find_eq_none (m : KeyedVector κ ν) (k : κ) :
    m.find? k = none <-> forall v, (k, v) ∉ m.entries := by
  constructor
  · intro h v hv
    rw [(m.find_eq_some k v).mpr hv] at h
    cases h
  · intro h
    cases hf : m.find? k with
    | none => rfl
    | some v => exact absurd ((m.find_eq_some k v).mp hf) (h v)

theorem mem_add (m : KeyedVector κ ν) (k : κ) (v : ν) (p : κ × ν) :
    p ∈ (m.add k v).entries <-> p = (k, v) ∨ (p ∈ m.entries ∧ p.1 ≠ k) :=
  mem_insertEntry m.sorted p

theorem mem_remove (m : KeyedVector κ ν) (k : κ) (p : κ × ν) :
    p ∈ (m.remove k).entries <-> p ∈ m.entries ∧ p.1 ≠ k := by
  simp [remove]

theorem find_add (m : KeyedVector κ ν) (k : κ) (v : ν) (j : κ) :
    (m.add k v).find? j = if j = k then some v else m.find? j := by
  apply Option.ext
  intro w
  rw [find_eq_some, mem_add]
  by_cases hj : j = k
  · rw [if_pos hj, Option.some.injEq, Prod.mk.injEq]
    constructor
    · intro h
      rcases h with h | h
      · exact h.2.symm
      · exact absurd hj h.2
    · intro h
      exact Or.inl ⟨hj, h.symm⟩
  · rw [if_neg hj, find_eq_some, Prod.mk.injEq]
    constructor
    · intro h
      rcases h with h | h
      · exact absurd h.1 hj
      · exact h.1
    · intro h
      exact Or.inr ⟨h, hj⟩

theorem find_remove (m : KeyedVector κ ν) (k j : κ) :
    (m.remove k).find? j = if j = k then none else m.find? j := by
  apply Option.ext
  intro w
  rw [find_eq_some, mem_remove]
  by_cases hj : j = k
  · rw [if_pos hj]
    simp [hj]
  · rw [if_neg hj, find_eq_some]
    constructor
    · intro h
      exact h.1
    · intro h
      exact ⟨h, hj⟩

theorem mem_keys (m : KeyedVector κ ν) (k : κ) :
    k ∈ m.keys <-> exists v, (k, v) ∈ m.entries := by
  simp [keys]

theorem mem_values (m : KeyedVector κ ν) (v : ν) :
    v ∈ m.values <-> exists k, (k, v) ∈ m.entries := by
  simp [values]

theorem insertEntry_filter (k : κ) (v : ν) {l : List (κ × ν)}
    (hl : l.Pairwise (fun p q => p.1 < q.1)) :
    insertEntry k v (l.filter (fun p => p.1 ≠ k)) = insertEntry k v l := by
  induction l with
  | nil => rfl
  | cons q rest ih =>
      have hrest := List.pairwise_cons.mp hl
      rcases lt_trichotomy k q.1 with hlt | heq | hgt
      · have hkeep : (q :: rest).filter (fun p => p.1 ≠ k) = q :: rest := by
          apply List.filter_eq_self.mpr
          intro p hp
          rcases List.mem_cons.mp hp with hp | hp
          · rw [hp]
            simpa using ne_of_gt hlt
          · simpa using ne_of_gt (lt_trans hlt (hrest.1 p hp))
        rw [hkeep]
      · have hkeep : rest.filter (fun p => p.1 ≠ k) = rest := by
          apply List.filter_eq_self.mpr
          intro p hp
          rw [heq]
          simpa using ne_of_gt (hrest.1 p hp)
        rw [List.filter_cons_of_neg (by simpa using heq.symm), hkeep]
        cases rest with
        | nil => simp [insertEntry, heq]
        | cons p rest =>
            have hp : k < p.1 := by
              rw [heq]
              exact hrest.1 p List.mem_cons_self
            simp [insertEntry, heq, heq ▸ hp]
      · rw [List.filter_cons_of_pos (by simpa using ne_of_lt hgt)]
        simp only [insertEntry, not_lt_of_gt hgt, if_false, hgt, if_true]
        rw [ih hrest.2]

theorem add_remove (m : KeyedVector κ ν) (k : κ) (v : ν) :
    (m.remove k).add k v = m.add k v := by
  unfold add remove
  congr 1
  exact insertEntry_filter k v m.sorted

end KeyedVector

end Lib
end Sm7225
