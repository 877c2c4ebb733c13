import SessionGateway.Cache.Entry
import SessionGateway.Cache.Table

/-!
Entries addressed by a category and a key.
-/

namespace SessionGateway

structure CategorizedCache where
  categories : Table (Table Entry)
  deriving Inhabited

namespace CategorizedCache

def empty : CategorizedCache := ⟨.empty⟩

def get? (c : CategorizedCache) (category key : String) : Option Entry :=
  (c.categories.get? category).bind (·.get? key)

def insert (c : CategorizedCache) (category key : String) (e : Entry) : CategorizedCache :=
  ⟨c.categories.insert category (((c.categories.get? category).getD .empty).insert key e)⟩

def countIn (c : CategorizedCache) (category : String) : Nat :=
  ((c.categories.get? category).map Table.size).getD 0

def clearCategory (c : CategorizedCache) (category : String) : CategorizedCache :=
  ⟨c.categories.erase category⟩

def size (c : CategorizedCache) : Nat :=
  c.categories.entries.foldr (fun p n => p.2.size + n) 0

def isEmpty (c : CategorizedCache) : Bool := c.size == 0

theorem get?_insert (c : CategorizedCache) (category key category' key' : String) (e : Entry) :
    (c.insert category key e).get? category' key'
      = if category' = category ∧ key' = key then some e else c.get? category' key' := by
  simp only [get?, insert, Table.get?_insert]
  by_cases hc : category' = category
  · subst hc
    by_cases hk : key' = key
    · simp [Table.get?_insert, hk]
    · cases h : c.categories.get? category' <;> simp [Table.get?_insert, hk]
  · simp [hc]

theorem get?_clearCategory (c : CategorizedCache) (category category' key : String) :
    (c.clearCategory category).get? category' key
      = if category' = category then none else c.get? category' key := by
  simp only [get?, clearCategory, Table.get?_erase]
  split <;> simp

def addresses (c : CategorizedCache) : List (String × String) :=
  c.categories.entries.flatMap fun p => p.2.keys.map (p.1, ·)

theorem mem_addresses_iff (c : CategorizedCache) {category key : String} :
    (category, key) ∈ c.addresses ↔ (c.get? category key).isSome := by
  simp only [addresses, List.mem_flatMap, List.mem_map, Prod.mk.injEq, get?]
  constructor
  · rintro ⟨⟨category, table⟩, hentry, key, hkey, rfl, rfl⟩
    rw [c.categories.mem_entries_iff.mp hentry]
    exact table.mem_keys_iff.mp hkey
  · intro h
    cases htable : c.categories.get? category with
    | none => simp [htable] at h
    | some table =>
      rw [htable] at h
      exact ⟨(category, table), c.categories.mem_entries_iff.mpr htable, key,
        table.mem_keys_iff.mpr h, rfl, rfl⟩

theorem nodup_addresses (c : CategorizedCache) : c.addresses.Nodup := by
  rw [List.Nodup, addresses, List.pairwise_flatMap]
  constructor
  · intro p _
    refine List.pairwise_map.mpr (p.2.nodup_keys.imp fun hne he => hne ?_)
    exact (Prod.mk.inj he).2
  · refine (List.pairwise_map.mp c.categories.distinct).imp fun hne => ?_
    intro x hx y hy he
    obtain ⟨key, -, rfl⟩ := List.mem_map.mp hx
    obtain ⟨key', -, rfl⟩ := List.mem_map.mp hy
    exact hne (Prod.mk.inj he).1

theorem length_addresses (c : CategorizedCache) : c.addresses.length = c.size := by
  rw [addresses, size]
  induction c.categories.entries with
  | nil => rfl
  | cons p l ih =>
    rw [List.flatMap_cons, List.length_append, List.length_map, Table.length_keys, ih,
      List.foldr_cons]

theorem filter_addresses (c : CategorizedCache) (f : String → Bool) :
    c.addresses.filter (f ·.1)
      = (c.categories.entries.filter (f ·.1)).flatMap fun p => p.2.keys.map (p.1, ·) := by
  rw [addresses, List.filter_flatMap]
  induction c.categories.entries with
  | nil => rfl
  | cons p l ih =>
    rw [List.flatMap_cons, ih, List.filter_map]
    cases hf : f p.1 with
    | false => simp [Function.comp_def, hf]
    | true =>
      have hall : p.2.keys.filter (fun _ => true) = p.2.keys := List.filter_eq_self.mpr (by simp)
      simp [Function.comp_def, hf, hall]

theorem addresses_clearCategory (c : CategorizedCache) (category : String) :
    (c.clearCategory category).addresses = c.addresses.filter (·.1 != category) :=
  (c.filter_addresses (· != category)).symm

theorem countIn_eq (c : CategorizedCache) (category : String) :
    c.countIn category = c.addresses.countP (·.1 == category) := by
  rw [List.countP_eq_length_filter, c.filter_addresses (· == category), Table.filter_entries,
    countIn]
  cases c.categories.get? category with
  | none => rfl
  | some table => simp [Table.length_keys]

theorem size_clearCategory (c : CategorizedCache) (category : String) :
    (c.clearCategory category).size + c.countIn category = c.size := by
  rw [← length_addresses, addresses_clearCategory, countIn_eq, ← length_addresses,
    ← List.countP_eq_length_filter, List.length_eq_countP_add_countP fun p => p.1 == category,
    Nat.add_comm]
  simp only [bne, Bool.not_eq_true, Bool.decide_eq_false]

theorem isEmpty_iff (c : CategorizedCache) :
    c.isEmpty ↔ ∀ category key, c.get? category key = none := by
  rw [isEmpty, beq_iff_eq, ← length_addresses, List.length_eq_zero_iff,
    List.eq_nil_iff_forall_not_mem]
  constructor
  · intro h category key
    have hnot := h (category, key)
    rw [mem_addresses_iff] at hnot
    simpa using hnot
  · rintro h ⟨category, key⟩
    rw [mem_addresses_iff, h]
    nofun

end CategorizedCache
end SessionGateway
