/-!
# Finite maps in key order

A `KeyMap` holds at most one value a key and lists its entries in increasing order of the keys, so
two maps with the same entries are equal. `get?_insert` and `get?_erase` say what the operations do
to a look-up, and `ext_get?` that look-ups determine the map.
-/

namespace PipelineSync

open Std

/-- Values under keys, in increasing order of the keys. -/
structure KeyMap (κ α : Type) [Ord κ] where
  entries : List (κ × α)
  sorted : entries.Pairwise fun a b => compare a.1 b.1 = .lt

namespace KeyMap

variable {κ α β : Type} [Ord κ]

/-- The map without entries. -/
def empty : KeyMap κ α := ⟨[], .nil⟩

instance : EmptyCollection (KeyMap κ α) := ⟨empty⟩

instance : Inhabited (KeyMap κ α) := ⟨empty⟩

instance [DecidableEq κ] [DecidableEq α] : DecidableEq (KeyMap κ α) := fun m n =>
  match decEq m.entries n.entries with
  | .isTrue h => .isTrue (by cases m; cases n; simp_all)
  | .isFalse h => .isFalse fun e => h (by rw [e])

/-- The value under a key. -/
def get? (m : KeyMap κ α) (k : κ) : Option α :=
  (m.entries.find? fun e => compare k e.1 == .eq).map Prod.snd

/-- Whether there is a value under a key. -/
def contains (m : KeyMap κ α) (k : κ) : Bool :=
  (m.get? k).isSome

/-- The keys in increasing order. -/
def keys (m : KeyMap κ α) : List κ :=
  m.entries.map Prod.fst

/-- The values in the order of their keys. -/
def values (m : KeyMap κ α) : List α :=
  m.entries.map Prod.snd

/-- Whether there are no entries. -/
def isEmpty (m : KeyMap κ α) : Bool :=
  m.entries.isEmpty

/-- Puts an entry in its place, instead of the one with its key. -/
def insertEntry (k : κ) (v : α) : List (κ × α) → List (κ × α)
  | [] => [(k, v)]
  | e :: rest =>
    match compare k e.1 with
    | .lt => (k, v) :: e :: rest
    | .eq => (k, v) :: rest
    | .gt => e :: insertEntry k v rest

theorem mem_insertEntry {k : κ} {v : α} {es : List (κ × α)} {x : κ × α}
    (h : x ∈ insertEntry k v es) : x = (k, v) ∨ x ∈ es := by
  induction es with
  | nil => simpa [insertEntry] using h
  | cons e es ih =>
    unfold insertEntry at h
    split at h
    · simpa using h
    · rcases List.mem_cons.1 h with h | h
      · exact Or.inl h
      · exact Or.inr (List.mem_cons_of_mem _ h)
    · rcases List.mem_cons.1 h with h | h
      · exact Or.inr (h ▸ List.mem_cons_self)
      · exact (ih h).imp id (List.mem_cons_of_mem _)

theorem sorted_insertEntry [TransOrd κ] [LawfulEqOrd κ] {k : κ} {v : α} {es : List (κ × α)}
    (h : es.Pairwise fun a b => compare a.1 b.1 = .lt) :
    (insertEntry k v es).Pairwise fun a b => compare a.1 b.1 = .lt := by
  induction es with
  | nil => simp [insertEntry]
  | cons e es ih =>
    obtain ⟨he, hes⟩ := List.pairwise_cons.1 h
    unfold insertEntry
    split
    · next hlt =>
      refine List.pairwise_cons.2 ⟨fun x hx => ?_, h⟩
      rcases List.mem_cons.1 hx with rfl | hx
      · exact hlt
      · exact TransCmp.lt_trans hlt (he x hx)
    · next heq =>
      have : k = e.1 := LawfulEqOrd.eq_of_compare heq
      exact List.pairwise_cons.2 ⟨fun x hx => by simpa [this] using he x hx, hes⟩
    · next hgt =>
      refine List.pairwise_cons.2 ⟨fun x hx => ?_, ih hes⟩
      rcases mem_insertEntry hx with rfl | hx
      · exact OrientedCmp.lt_of_gt hgt
      · exact he x hx

/-- Puts a value under a key, instead of the one that is there. -/
def insert [TransOrd κ] [LawfulEqOrd κ] (m : KeyMap κ α) (k : κ) (v : α) : KeyMap κ α :=
  ⟨insertEntry k v m.entries, sorted_insertEntry m.sorted⟩

/-- Keeps the entries that satisfy `p`. -/
def filter (m : KeyMap κ α) (p : κ → α → Bool) : KeyMap κ α :=
  ⟨m.entries.filter fun e => p e.1 e.2, m.sorted.sublist List.filter_sublist⟩

/-- Takes the value under a key away. -/
def erase (m : KeyMap κ α) (k : κ) : KeyMap κ α :=
  m.filter fun k' _ => compare k k' != .eq

/-- The map with each value replaced by its image. -/
def map (m : KeyMap κ α) (f : κ → α → β) : KeyMap κ β :=
  ⟨m.entries.map fun e => (e.1, f e.1 e.2), List.pairwise_map.2 m.sorted⟩

/-- The map of the given entries; of equal keys the last counts. -/
def ofList [TransOrd κ] [LawfulEqOrd κ] (es : List (κ × α)) : KeyMap κ α :=
  es.foldl (fun m e => m.insert e.1 e.2) ∅

/-! ## Look-ups -/

@[simp] theorem get?_empty (k : κ) : (∅ : KeyMap κ α).get? k = none := rfl

theorem get?_eq_some_iff [TransOrd κ] [LawfulEqOrd κ] {m : KeyMap κ α} {k : κ} {v : α} :
    m.get? k = some v ↔ (k, v) ∈ m.entries := by
  obtain ⟨es, hs⟩ := m
  simp only [get?]
  induction es with
  | nil => simp
  | cons e es ih =>
    obtain ⟨he, hes⟩ := List.pairwise_cons.1 hs
    rw [List.find?_cons]
    cases hc : compare k e.1 with
    | eq =>
      have hk : k = e.1 := LawfulEqOrd.eq_of_compare hc
      simp only [BEq.rfl, Option.map_some, Option.some.injEq, List.mem_cons]
      refine ⟨fun h => Or.inl (by rw [hk, ← h]), fun h => ?_⟩
      rcases h with h | h
      · rw [← h]
      · have := he _ h
        rw [hk] at this
        simp [ReflCmp.compare_self] at this
    | lt =>
      have hne : (k, v) ≠ e := fun h => by
        rw [← h] at hc
        simp [ReflCmp.compare_self] at hc
      simpa [hne] using ih hes
    | gt =>
      have hne : (k, v) ≠ e := fun h => by
        rw [← h] at hc
        simp [ReflCmp.compare_self] at hc
      simpa [hne] using ih hes

theorem ne_of_compare_lt [LawfulEqOrd κ] {a b : κ} (h : compare a b = .lt) : a ≠ b := by
  rintro rfl
  simp at h

theorem nodup_keys [LawfulEqOrd κ] (m : KeyMap κ α) : m.keys.Nodup :=
  List.pairwise_map.2 (m.sorted.imp fun h => ne_of_compare_lt h)

theorem nodup_entries [LawfulEqOrd κ] (m : KeyMap κ α) : m.entries.Nodup :=
  m.sorted.imp fun h heq => ne_of_compare_lt h (congrArg Prod.fst heq)

theorem values_map (m : KeyMap κ α) (f : α → β) :
    (m.map fun _ => f).values = m.values.map f := by
  simp [values, map]

section Laws

variable [TransOrd κ] [LawfulEqOrd κ]

/-- Look-ups determine the map. -/
theorem ext_get? {m n : KeyMap κ α} (h : ∀ k, m.get? k = n.get? k) : m = n := by
  have hperm : m.entries.Perm n.entries := by
    rw [List.perm_ext_iff_of_nodup m.nodup_entries n.nodup_entries]
    intro e
    rw [← get?_eq_some_iff, ← get?_eq_some_iff, h]
  have hentries : m.entries = n.entries := by
    refine hperm.eq_of_pairwise (fun a b _ _ hab hba => ?_) m.sorted n.sorted
    exact absurd rfl (ne_of_compare_lt (TransCmp.lt_trans hab hba))
  obtain ⟨es, hs⟩ := m
  obtain rfl : es = n.entries := hentries
  rfl

theorem mem_insertEntry_iff {k : κ} {v : α} {es : List (κ × α)}
    (h : es.Pairwise fun a b => compare a.1 b.1 = .lt) {x : κ × α} :
    x ∈ insertEntry k v es ↔ x = (k, v) ∨ x ∈ es ∧ x.1 ≠ k := by
  induction es with
  | nil => simp [insertEntry]
  | cons e es ih =>
    obtain ⟨he, hes⟩ := List.pairwise_cons.1 h
    unfold insertEntry
    split
    · next hlt =>
      have hne : ∀ y ∈ e :: es, y.1 ≠ k := by
        intro y hy
        rcases List.mem_cons.1 hy with rfl | hy
        · exact (ne_of_compare_lt hlt).symm
        · exact (ne_of_compare_lt (TransCmp.lt_trans hlt (he y hy))).symm
      rw [List.mem_cons]
      exact or_congr_right ⟨fun hx => ⟨hx, hne x hx⟩, And.left⟩
    · next heq =>
      obtain rfl : k = e.1 := LawfulEqOrd.eq_of_compare heq
      simp only [List.mem_cons]
      refine or_congr_right ⟨fun hx => ⟨Or.inr hx, (ne_of_compare_lt (he x hx)).symm⟩, ?_⟩
      rintro ⟨rfl | hx, hk⟩
      · exact absurd rfl hk
      · exact hx
    · next hgt =>
      have hk : e.1 ≠ k := ne_of_compare_lt (OrientedCmp.lt_of_gt hgt)
      simp only [List.mem_cons, ih hes]
      constructor
      · rintro (rfl | rfl | hx)
        · exact Or.inr ⟨Or.inl rfl, hk⟩
        · exact Or.inl rfl
        · exact Or.inr ⟨Or.inr hx.1, hx.2⟩
      · rintro (rfl | ⟨rfl | hx, hxk⟩)
        · exact Or.inr (Or.inl rfl)
        · exact Or.inl rfl
        · exact Or.inr (Or.inr ⟨hx, hxk⟩)

theorem get?_insert [DecidableEq κ] (m : KeyMap κ α) (k : κ) (v : α) (k' : κ) :
    (m.insert k v).get? k' = if k' = k then some v else m.get? k' := by
  ext u
  rw [get?_eq_some_iff, insert, mem_insertEntry_iff m.sorted]
  split
  · next h => simp [h, eq_comm]
  · next h => simp [h, get?_eq_some_iff]

@[simp] theorem get?_insert_self (m : KeyMap κ α) (k : κ) (v : α) :
    (m.insert k v).get? k = some v := by
  rw [get?_eq_some_iff, insert, mem_insertEntry_iff m.sorted]
  exact Or.inl rfl

theorem get?_filter (m : KeyMap κ α) (p : κ → α → Bool) (k : κ) :
    (m.filter p).get? k = (m.get? k).filter (p k) := by
  ext v
  rw [get?_eq_some_iff, filter, List.mem_filter, Option.filter_eq_some_iff, get?_eq_some_iff]

theorem get?_erase [DecidableEq κ] (m : KeyMap κ α) (k k' : κ) :
    (m.erase k).get? k' = if k' = k then none else m.get? k' := by
  rw [erase, get?_filter]
  split
  · next h => simp [h]
  · next h =>
    have : compare k k' ≠ .eq := fun hc => h (LawfulEqOrd.eq_of_compare hc).symm
    cases m.get? k' <;> simp [this]

theorem contains_insert [DecidableEq κ] (m : KeyMap κ α) (k : κ) (v : α) (k' : κ) :
    (m.insert k v).contains k' = if k' = k then true else m.contains k' := by
  rw [contains, get?_insert]
  split <;> rfl

theorem contains_erase [DecidableEq κ] (m : KeyMap κ α) (k k' : κ) :
    (m.erase k).contains k' = if k' = k then false else m.contains k' := by
  rw [contains, get?_erase]
  split <;> rfl

theorem get?_map (m : KeyMap κ α) (f : κ → α → β) (k : κ) :
    (m.map f).get? k = (m.get? k).map (f k) := by
  ext v
  rw [get?_eq_some_iff, Option.map_eq_some_iff, map, List.mem_map]
  constructor
  · rintro ⟨⟨k', u⟩, hmem, h⟩
    obtain ⟨rfl, rfl⟩ := Prod.mk.inj h
    exact ⟨u, get?_eq_some_iff.2 hmem, rfl⟩
  · rintro ⟨u, hu, rfl⟩
    exact ⟨(k, u), get?_eq_some_iff.1 hu, rfl⟩

/-- Putting a value where it is already changes nothing. -/
theorem insert_of_get?_eq_some {m : KeyMap κ α} {k : κ} {v : α} (h : m.get? k = some v) :
    m.insert k v = m := by
  refine ext_get? fun k' => Option.ext fun u => ?_
  rw [get?_eq_some_iff, get?_eq_some_iff, insert, mem_insertEntry_iff m.sorted]
  constructor
  · rintro (hu | hu)
    · exact hu ▸ get?_eq_some_iff.1 h
    · exact hu.1
  · intro hu
    by_cases hk : k' = k
    · subst hk
      exact Or.inl (congrArg (Prod.mk k') (Option.some.inj ((get?_eq_some_iff.2 hu).symm.trans h)))
    · exact Or.inr ⟨hu, hk⟩

@[simp] theorem insert_insert [DecidableEq κ] (m : KeyMap κ α) (k : κ) (u v : α) :
    (m.insert k u).insert k v = m.insert k v := by
  refine ext_get? fun k' => ?_
  rw [get?_insert, get?_insert, get?_insert]
  split <;> rfl

/-- What was put where nothing was can be taken away again. -/
theorem erase_insert [DecidableEq κ] {m : KeyMap κ α} {k : κ} (h : m.get? k = none) (v : α) :
    (m.insert k v).erase k = m := by
  refine ext_get? fun k' => ?_
  rw [get?_erase, get?_insert]
  split
  · next hk => rw [hk, h]
  · rfl

@[simp] theorem erase_insert_empty [DecidableEq κ] (k : κ) (v : α) :
    ((∅ : KeyMap κ α).insert k v).erase k = ∅ :=
  erase_insert (get?_empty k) v

theorem map_insert [DecidableEq κ] (m : KeyMap κ α) (f : κ → α → β) (k : κ) (v : α) :
    (m.insert k v).map f = (m.map f).insert k (f k v) := by
  refine ext_get? fun k' => ?_
  rw [get?_map, get?_insert, get?_insert, get?_map]
  split
  · next h => rw [h, Option.map_some]
  · rfl

theorem mem_values_iff {m : KeyMap κ α} {v : α} : v ∈ m.values ↔ ∃ k, m.get? k = some v := by
  simp [values, get?_eq_some_iff]

theorem get?_foldl_insert_eq_some_iff [DecidableEq κ] {es : List (κ × α)}
    (h : (es.map Prod.fst).Nodup) (m : KeyMap κ α) {k : κ} {v : α} :
    (es.foldl (fun m e => m.insert e.1 e.2) m).get? k = some v ↔
      (k, v) ∈ es ∨ k ∉ es.map Prod.fst ∧ m.get? k = some v := by
  induction es generalizing m with
  | nil => simp
  | cons e es ih =>
    obtain ⟨k', v'⟩ := e
    rw [List.map_cons, List.nodup_cons] at h
    rw [List.foldl_cons, ih h.2, get?_insert]
    by_cases hk : k = k'
    · subst hk
      have hout : (k, v) ∉ es := fun hmem => h.1 (List.mem_map.2 ⟨(k, v), hmem, rfl⟩)
      simp [hout, h.1, eq_comm]
    · simp [hk]

/-- With no key twice, the map holds what the list holds. -/
theorem get?_ofList_eq_some_iff [DecidableEq κ] {es : List (κ × α)}
    (h : (es.map Prod.fst).Nodup) {k : κ} {v : α} :
    (ofList es).get? k = some v ↔ (k, v) ∈ es := by
  rw [ofList, get?_foldl_insert_eq_some_iff h, get?_empty]
  simp

/-- The order in which entries are put in does not matter, with no key twice. -/
theorem ofList_perm [DecidableEq κ] {es fs : List (κ × α)} (h : es.Perm fs)
    (hes : (es.map Prod.fst).Nodup) : ofList es = ofList fs := by
  have hfs : (fs.map Prod.fst).Nodup := (h.map Prod.fst).nodup_iff.1 hes
  refine ext_get? fun k => Option.ext fun v => ?_
  rw [get?_ofList_eq_some_iff hes, get?_ofList_eq_some_iff hfs, h.mem_iff]

/-- The values of a part of a map are among those of the map, in the same order. -/
theorem values_sublist {m n : KeyMap κ α} (h : ∀ k v, m.get? k = some v → n.get? k = some v) :
    m.values.Sublist n.values := by
  have hfilter : n.filter (fun k _ => m.contains k) = m := by
    refine ext_get? fun k => ?_
    rw [get?_filter, contains]
    cases hm : m.get? k with
    | none => simp
    | some v => rw [h k v hm, Option.filter_some]; rfl
  rw [← hfilter]
  exact List.filter_sublist.map Prod.snd

end Laws

end KeyMap

end PipelineSync
