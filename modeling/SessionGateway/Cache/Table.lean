/-!
Finite maps from text, as lists of pairs with distinct keys. `get?` is the view that the other
operations are described by.
-/

namespace SessionGateway

structure Table (α : Type) where
  entries : List (String × α)
  distinct : (entries.map Prod.fst).Nodup

namespace Table

variable {α : Type}

def empty : Table α := ⟨[], List.nodup_nil⟩

instance : Inhabited (Table α) := ⟨empty⟩

def get? (t : Table α) (key : String) : Option α := t.entries.lookup key

def keys (t : Table α) : List String := t.entries.map Prod.fst

def size (t : Table α) : Nat := t.entries.length

def isEmpty (t : Table α) : Bool := t.entries.isEmpty

theorem distinct_filter (t : Table α) (p : String × α → Bool) :
    ((t.entries.filter p).map Prod.fst).Nodup :=
  List.Pairwise.sublist (List.Sublist.map _ List.filter_sublist) t.distinct

def erase (t : Table α) (key : String) : Table α :=
  ⟨t.entries.filter (·.1 != key), t.distinct_filter _⟩

def insert (t : Table α) (key : String) (value : α) : Table α where
  entries := (key, value) :: (t.erase key).entries
  distinct := by
    rw [List.map_cons, List.nodup_cons]
    refine ⟨?_, (t.erase key).distinct⟩
    simp [erase]

theorem lookup_cons_ne (l : List (String × α)) {key k : String} (v : α) (h : k ≠ key) :
    ((key, v) :: l).lookup k = l.lookup k := by
  have hk : (k == key) = false := by simpa using h
  simp [List.lookup_cons, hk]

theorem lookup_filter_ne (l : List (String × α)) {key k : String} (h : k ≠ key) :
    (l.filter (·.1 != key)).lookup k = l.lookup k := by
  induction l with
  | nil => rfl
  | cons a l ih =>
    obtain ⟨a, v⟩ := a
    by_cases ha : a = key
    · subst ha
      simp [lookup_cons_ne l v h, ih]
    · by_cases hk : k = a
      · subst hk
        simp [ha]
      · simp [ha, lookup_cons_ne _ v hk, ih]

theorem lookup_filter_self (l : List (String × α)) (key : String) :
    (l.filter (·.1 != key)).lookup key = none := by
  induction l with
  | nil => rfl
  | cons a l ih =>
    obtain ⟨a, v⟩ := a
    by_cases ha : a = key
    · simp [ha, ih]
    · simp [ha, lookup_cons_ne _ v (Ne.symm ha), ih]

@[simp] theorem get?_empty (key : String) : (empty : Table α).get? key = none := rfl

theorem get?_erase (t : Table α) (key k : String) :
    (t.erase key).get? k = if k = key then none else t.get? k := by
  by_cases h : k = key
  · subst h
    simp [get?, erase, lookup_filter_self]
  · simp [get?, erase, h, lookup_filter_ne]

theorem get?_insert (t : Table α) (key k : String) (value : α) :
    (t.insert key value).get? k = if k = key then some value else t.get? k := by
  by_cases h : k = key
  · simp [get?, insert, h]
  · have hs : (t.insert key value).get? k = (t.erase key).get? k := lookup_cons_ne _ value h
    rw [hs, get?_erase, if_neg h, if_neg h]

theorem size_eq_zero_of_get? {t : Table α} (h : ∀ key, t.get? key = none) : t.size = 0 := by
  obtain ⟨entries, distinct⟩ := t
  cases entries with
  | nil => rfl
  | cons a l =>
    have ha := h a.1
    simp [get?] at ha

theorem mem_entries_iff (t : Table α) {key : String} {value : α} :
    (key, value) ∈ t.entries ↔ t.get? key = some value := by
  obtain ⟨entries, distinct⟩ := t
  induction entries with
  | nil => simp [get?]
  | cons a l ih =>
    obtain ⟨k, v⟩ := a
    rw [List.map_cons, List.nodup_cons] at distinct
    have hl : (key, value) ∈ l ↔ l.lookup key = some value := ih distinct.2
    by_cases hk : key = k
    · subst hk
      -- the key stands once, so the pair can only be the first one
      have hout : (key, value) ∉ l := fun h => distinct.1 (List.mem_map.mpr ⟨_, h, rfl⟩)
      simp [get?, hout, eq_comm]
    · simp [get?, hk, lookup_cons_ne, hl]

theorem mem_keys_iff (t : Table α) {key : String} : key ∈ t.keys ↔ (t.get? key).isSome := by
  rw [keys, List.mem_map, Option.isSome_iff_exists]
  constructor
  · rintro ⟨⟨k, v⟩, hmem, rfl⟩
    exact ⟨v, t.mem_entries_iff.mp hmem⟩
  · rintro ⟨v, hv⟩
    exact ⟨(key, v), t.mem_entries_iff.mpr hv, rfl⟩

theorem nodup_keys (t : Table α) : t.keys.Nodup := t.distinct

theorem length_keys (t : Table α) : t.keys.length = t.size := List.length_map _

theorem filter_entries (t : Table α) (key : String) :
    t.entries.filter (·.1 == key) = ((t.get? key).map (key, ·)).toList := by
  obtain ⟨entries, distinct⟩ := t
  induction entries with
  | nil => rfl
  | cons a l ih =>
    obtain ⟨k, v⟩ := a
    rw [List.map_cons, List.nodup_cons] at distinct
    have hl : l.filter (·.1 == key) = ((l.lookup key).map (key, ·)).toList := ih distinct.2
    by_cases hk : k = key
    · subst hk
      have hnone : l.lookup k = none := by
        rw [List.lookup_eq_none_iff]
        intro b hb
        have hne : k ≠ b.1 := fun he => distinct.1 (List.mem_map.mpr ⟨b, hb, he.symm⟩)
        simpa using hne
      simp [get?, hl, hnone]
    · simp [get?, hk, lookup_cons_ne _ v (Ne.symm hk), hl]

theorem entries_of_only_key {t : Table α} {key : String}
    (h : ∀ k v, t.get? k = some v → k = key) :
    t.entries = ((t.get? key).map (key, ·)).toList := by
  rw [← filter_entries, eq_comm, List.filter_eq_self]
  intro a ha
  simpa using h a.1 a.2 (t.mem_entries_iff.mp ha)

end Table
end SessionGateway
