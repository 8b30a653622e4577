/-
Dispatch/Table.lean

Finite maps from names, kept in name order.

A table is a list of entries whose names strictly increase, and the order is a field of the
type.  Two tables with the same entries are therefore equal (`Table.ext_entries`), and reading a
table in name order is reading its list.  `insertEntry` is a single pass that replaces on
collision, so what a look-up sees after it holds of every list, sorted or not
(`lookup_insertEntry_self`, `lookup_insertEntry_ne`).
-/

namespace Dispatch

/-! ### Entry lists -/

namespace Entries

variable {α β : Type}

/-- The first value stored under `name`. -/
def lookup (name : String) : List (String × α) → Option α
  | [] => none
  | (k, v) :: rest => if k = name then some v else lookup name rest

/-- Stores `value` under `name` in front of the first greater name, replacing a value that is
already there. -/
def insertEntry (name : String) (value : α) : List (String × α) → List (String × α)
  | [] => [(name, value)]
  | (k, v) :: rest =>
    if name < k then (name, value) :: (k, v) :: rest
    else if k = name then (name, value) :: rest
    else (k, v) :: insertEntry name value rest

/-- Names strictly increase along the list. -/
def Sorted (entries : List (String × α)) : Prop :=
  entries.Pairwise fun a b => a.1 < b.1

theorem lookup_insertEntry_self (name : String) (value : α) (l : List (String × α)) :
    lookup name (insertEntry name value l) = some value := by
  induction l with
  | nil => simp [insertEntry, lookup]
  | cons e rest ih =>
    obtain ⟨k, v⟩ := e
    simp only [insertEntry]
    split
    · simp [lookup]
    · split
      · simp [lookup]
      · simp [lookup, *]

theorem lookup_insertEntry_ne {name other : String} (h : other ≠ name) (value : α)
    (l : List (String × α)) : lookup other (insertEntry name value l) = lookup other l := by
  induction l with
  | nil => simp [insertEntry, lookup, Ne.symm h]
  | cons e rest ih =>
    obtain ⟨k, v⟩ := e
    simp only [insertEntry]
    split
    · simp [lookup, Ne.symm h]
    · split
      · next hk => subst hk; simp [lookup, Ne.symm h]
      · simp [lookup, ih]

theorem mem_insertEntry {name : String} {value : α} {e : String × α}
    {l : List (String × α)} (h : e ∈ insertEntry name value l) : e = (name, value) ∨ e ∈ l := by
  induction l with
  | nil => simpa [insertEntry] using h
  | cons x rest ih =>
    simp only [insertEntry] at h
    split at h
    · simpa using h
    · split at h
      · rcases List.mem_cons.mp h with h | h
        · exact Or.inl h
        · exact Or.inr (List.mem_cons_of_mem _ h)
      · rcases List.mem_cons.mp h with h | h
        · exact Or.inr (h ▸ List.mem_cons_self)
        · exact (ih h).imp_right (List.mem_cons_of_mem _)

theorem Sorted.insertEntry {l : List (String × α)} (hl : Sorted l) (name : String) (value : α) :
    Sorted (insertEntry name value l) := by
  induction l with
  | nil => exact List.pairwise_singleton _ _
  | cons x rest ih =>
    obtain ⟨k, v⟩ := x
    have hx := List.pairwise_cons.mp hl
    simp only [Entries.insertEntry]
    split
    · next hk =>
      refine List.pairwise_cons.mpr ⟨fun e he => ?_, hl⟩
      rcases List.mem_cons.mp he with rfl | he
      · exact hk
      · exact String.lt_trans hk (hx.1 e he)
    · next hk =>
      split
      · next heq => subst heq; exact List.pairwise_cons.mpr ⟨hx.1, hx.2⟩
      · next hne =>
        refine List.pairwise_cons.mpr ⟨fun e he => ?_, ih hx.2⟩
        rcases mem_insertEntry he with rfl | he
        · rcases Std.lt_trichotomy name k with h | h | h
          · exact absurd h hk
          · exact absurd h.symm hne
          · exact h
        · exact hx.1 e he

/-- No name comes twice in a list whose names increase. -/
theorem Sorted.nodup {l : List (String × α)} (hl : Sorted l) : (l.map Prod.fst).Nodup :=
  List.Pairwise.imp (fun {a b} (hlt : a < b) (heq : a = b) => String.lt_irrefl b (heq ▸ hlt))
    (List.pairwise_map.mpr hl)

theorem mem_of_lookup_eq_some {l : List (String × α)} {name : String} {value : α}
    (h : lookup name l = some value) : (name, value) ∈ l := by
  induction l with
  | nil => simp [lookup] at h
  | cons x rest ih =>
    obtain ⟨k, v⟩ := x
    by_cases hk : k = name
    · simp [lookup, hk] at h; simp [hk, h]
    · simp [lookup, hk] at h; exact List.mem_cons_of_mem _ (ih h)

theorem lookup_eq_some_of_nodup {l : List (String × α)} (hl : (l.map Prod.fst).Nodup)
    {name : String} {value : α} (h : (name, value) ∈ l) : lookup name l = some value := by
  induction l with
  | nil => cases h
  | cons x rest ih =>
    obtain ⟨k, v⟩ := x
    obtain ⟨hk, hrest⟩ := List.nodup_cons.mp hl
    rcases List.mem_cons.mp h with h | h
    · cases h
      simp [lookup]
    · have hne : k ≠ name := fun he => hk (he ▸ List.mem_map.mpr ⟨_, h, rfl⟩)
      simp [lookup, hne, ih hrest h]

theorem lookup_eq_some_of_mem {l : List (String × α)} (hl : Sorted l) {name : String}
    {value : α} (h : (name, value) ∈ l) : lookup name l = some value :=
  lookup_eq_some_of_nodup hl.nodup h

/-- Lists in order that have the same entries are the same. -/
theorem Sorted.ext_mem {l l' : List (String × α)} (hl : Sorted l) (hl' : Sorted l')
    (h : ∀ e, e ∈ l ↔ e ∈ l') : l = l' := by
  induction l generalizing l' with
  | nil =>
    cases l' with
    | nil => rfl
    | cons y l' => exact absurd ((h y).mpr List.mem_cons_self) List.not_mem_nil
  | cons x l ih =>
    cases l' with
    | nil => exact absurd ((h x).mp List.mem_cons_self) List.not_mem_nil
    | cons y l' =>
      obtain ⟨hx, hrest⟩ := List.pairwise_cons.mp hl
      obtain ⟨hy, hrest'⟩ := List.pairwise_cons.mp hl'
      -- neither of the first entries can come after the other
      have heq : x = y := by
        rcases List.mem_cons.mp ((h x).mp List.mem_cons_self) with heq | hin
        · exact heq
        · rcases List.mem_cons.mp ((h y).mpr List.mem_cons_self) with heq | hin'
          · exact heq.symm
          · exact absurd (String.lt_trans (hy x hin) (hx y hin')) (String.lt_irrefl _)
      subst heq
      refine congrArg (x :: ·) (ih hrest hrest' fun e => ?_)
      constructor
      · intro he
        refine (List.mem_cons.mp ((h e).mp (List.mem_cons_of_mem x he))).resolve_left ?_
        rintro rfl
        exact String.lt_irrefl _ (hx e he)
      · intro he
        refine (List.mem_cons.mp ((h e).mpr (List.mem_cons_of_mem x he))).resolve_left ?_
        rintro rfl
        exact String.lt_irrefl _ (hy e he)

end Entries

/-! ### Tables -/

/-- A finite map from names to values, with its entries in name order. -/
structure Table (α : Type) where
  entries : List (String × α)
  sorted : Entries.Sorted entries := by exact List.Pairwise.nil

namespace Table

variable {α β : Type}

/-- The table without entries. -/
def empty : Table α := { entries := [] }

instance : Inhabited (Table α) := ⟨empty⟩
instance : EmptyCollection (Table α) := ⟨empty⟩

/-- The value stored under `name`. -/
def get? (t : Table α) (name : String) : Option α := Entries.lookup name t.entries

/-- Whether `name` has a value. -/
def contains (t : Table α) (name : String) : Bool := (t.get? name).isSome

/-- Stores a value under a name, replacing the one that was there. -/
def insert (t : Table α) (name : String) (value : α) : Table α :=
  { entries := Entries.insertEntry name value t.entries
    sorted := t.sorted.insertEntry name value }

/-- Keeps the entries that satisfy `keep`. -/
def filter (t : Table α) (keep : String → α → Bool) : Table α :=
  { entries := t.entries.filter fun e => keep e.1 e.2
    sorted := List.Pairwise.sublist List.filter_sublist t.sorted }

/-- Removes the entry of a name. -/
def erase (t : Table α) (name : String) : Table α := t.filter fun k _ => k != name

/-- Replaces every value by a function of its name and itself. -/
def mapValues (t : Table α) (f : String → α → β) : Table β :=
  { entries := t.entries.map fun e => (e.1, f e.1 e.2)
    sorted := by
      refine List.pairwise_map.mpr ?_
      exact t.sorted }

/-- Keeps and replaces the values on which `f` answers. -/
def filterMap (t : Table α) (f : String → α → Option β) : Table β :=
  { entries := t.entries.filterMap fun e => (f e.1 e.2).map fun v => (e.1, v)
    sorted := by
      refine List.pairwise_filterMap.mpr (List.Pairwise.imp ?_ t.sorted)
      intro a b hab x hx y hy
      obtain ⟨_, _, rfl⟩ := Option.map_eq_some_iff.mp hx
      obtain ⟨_, _, rfl⟩ := Option.map_eq_some_iff.mp hy
      exact hab }

/-- Names in order. -/
def names (t : Table α) : List String := t.entries.map Prod.fst

/-- Values in name order. -/
def values (t : Table α) : List α := t.entries.map Prod.snd

/-- Number of names. -/
def size (t : Table α) : Nat := t.entries.length

/-- Whether the table has no entry. -/
def isEmpty (t : Table α) : Bool := t.entries.isEmpty

/-- The table of a list of entries; of two entries with one name the later stays. -/
def ofList (l : List (String × α)) : Table α :=
  l.foldl (fun t e => t.insert e.1 e.2) empty

/-! ### Look-ups after each operation -/

@[simp] theorem get?_empty (name : String) : (empty : Table α).get? name = none := rfl

@[simp] theorem get?_insert_self (t : Table α) (name : String) (value : α) :
    (t.insert name value).get? name = some value :=
  Entries.lookup_insertEntry_self name value t.entries

theorem get?_insert_ne (t : Table α) {name other : String} (h : other ≠ name) (value : α) :
    (t.insert name value).get? other = t.get? other :=
  Entries.lookup_insertEntry_ne h value t.entries

theorem get?_insert (t : Table α) (name other : String) (value : α) :
    (t.insert name value).get? other = if other = name then some value else t.get? other := by
  split
  · next h => subst h; exact get?_insert_self t other value
  · next h => exact get?_insert_ne t h value

theorem get?_eq_some_iff_mem (t : Table α) {name : String} {value : α} :
    t.get? name = some value ↔ (name, value) ∈ t.entries :=
  ⟨Entries.mem_of_lookup_eq_some, Entries.lookup_eq_some_of_mem t.sorted⟩

theorem get?_filter (t : Table α) (keep : String → α → Bool) (name : String) :
    (t.filter keep).get? name = (t.get? name).filter (keep name) := by
  apply Option.ext
  intro v
  rw [get?_eq_some_iff_mem, Option.filter_eq_some_iff, get?_eq_some_iff_mem]
  simp [filter]

theorem get?_erase (t : Table α) (name other : String) :
    (t.erase name).get? other = if other = name then none else t.get? other := by
  rw [erase, get?_filter]
  by_cases h : other = name <;> cases t.get? other <;> simp [h]

theorem get?_mapValues (t : Table α) (f : String → α → β) (name : String) :
    (t.mapValues f).get? name = (t.get? name).map (f name) := by
  apply Option.ext
  intro v
  rw [get?_eq_some_iff_mem, Option.map_eq_some_iff]
  simp only [mapValues, List.mem_map, get?_eq_some_iff_mem]
  constructor
  · rintro ⟨⟨k, a⟩, hmem, heq⟩
    cases heq
    exact ⟨a, hmem, rfl⟩
  · rintro ⟨a, hmem, rfl⟩
    exact ⟨(name, a), hmem, rfl⟩

theorem get?_filterMap (t : Table α) (f : String → α → Option β) (name : String) :
    (t.filterMap f).get? name = (t.get? name).bind (f name) := by
  apply Option.ext
  intro v
  rw [get?_eq_some_iff_mem, Option.bind_eq_some_iff]
  simp only [filterMap, List.mem_filterMap, get?_eq_some_iff_mem, Option.map_eq_some_iff]
  constructor
  · rintro ⟨⟨k, a⟩, hmem, b, hb, heq⟩
    cases heq
    exact ⟨a, hmem, hb⟩
  · rintro ⟨a, hmem, hb⟩
    exact ⟨(name, a), hmem, v, hb, rfl⟩

theorem mem_names_iff (t : Table α) {name : String} :
    name ∈ t.names ↔ (t.get? name).isSome := by
  rw [Option.isSome_iff_exists]
  simp only [names, List.mem_map, get?_eq_some_iff_mem]
  constructor
  · rintro ⟨⟨k, v⟩, hmem, rfl⟩
    exact ⟨v, hmem⟩
  · rintro ⟨v, hmem⟩
    exact ⟨(name, v), hmem, rfl⟩

/-- Of two tables with the same names both have a value for a name, or neither. -/
theorem get?_eq_none_iff_of_names {s : Table α} {t : Table β} (h : s.names = t.names)
    (name : String) : s.get? name = none ↔ t.get? name = none := by
  rw [← Option.not_isSome_iff_eq_none, ← Option.not_isSome_iff_eq_none, ← s.mem_names_iff,
    ← t.mem_names_iff, h]

/-- **Names of a table strictly increase.** -/
theorem names_pairwise (t : Table α) : t.names.Pairwise (· < ·) :=
  List.pairwise_map.mpr t.sorted

theorem names_nodup (t : Table α) : t.names.Nodup := t.sorted.nodup

/-! ### Tables of lists -/

theorem get?_foldl_insert (l : List (String × α)) (t : Table α) (name : String)
    (h : (l.map Prod.fst).Nodup) :
    (l.foldl (fun t e => t.insert e.1 e.2) t).get? name
      = (Entries.lookup name l).or (t.get? name) := by
  induction l generalizing t with
  | nil => rfl
  | cons e l ih =>
    obtain ⟨k, v⟩ := e
    obtain ⟨hk, hl⟩ := List.nodup_cons.mp h
    rw [List.foldl_cons, ih _ hl, get?_insert, Entries.lookup]
    by_cases hname : k = name
    · subst hname
      -- the name does not come again
      have hnone : Entries.lookup k l = none := by
        cases hlookup : Entries.lookup k l with
        | none => rfl
        | some w =>
          exact absurd (List.mem_map_of_mem (Entries.mem_of_lookup_eq_some hlookup)) hk
      simp [hnone]
    · simp [hname, Ne.symm hname]

/-- In a list without a repeated name the table finds what stands there. -/
theorem get?_ofList {l : List (String × α)} (h : (l.map Prod.fst).Nodup) (name : String) :
    (ofList l).get? name = Entries.lookup name l := by
  rw [ofList, get?_foldl_insert l empty name h, get?_empty, Option.or_none]

theorem mem_foldl_insert {e : String × α} {l : List (String × α)} {t : Table α}
    (h : e ∈ (l.foldl (fun t e => t.insert e.1 e.2) t).entries) : e ∈ t.entries ∨ e ∈ l := by
  induction l generalizing t with
  | nil => exact Or.inl h
  | cons x l ih =>
    rcases ih h with h | h
    · rcases Entries.mem_insertEntry h with rfl | h
      · exact Or.inr List.mem_cons_self
      · exact Or.inl h
    · exact Or.inr (List.mem_cons_of_mem _ h)

/-- Whatever is in the table of a list stands in the list. -/
theorem mem_of_mem_ofList {e : String × α} {l : List (String × α)} (h : e ∈ (ofList l).entries) :
    e ∈ l := (mem_foldl_insert h).resolve_left List.not_mem_nil

theorem insertEntry_of_lt {name : String} {value : α} {l : List (String × α)}
    (h : ∀ e ∈ l, e.1 < name) : Entries.insertEntry name value l = l ++ [(name, value)] := by
  induction l with
  | nil => rfl
  | cons e l ih =>
    obtain ⟨k, v⟩ := e
    have hk : k < name := h (k, v) List.mem_cons_self
    have hne : k ≠ name := fun heq => String.lt_irrefl name (heq ▸ hk)
    have hnot : ¬ name < k := fun hlt => String.lt_irrefl k (String.lt_trans hk hlt)
    rw [Entries.insertEntry, if_neg hnot, if_neg hne,
      ih fun e he => h e (List.mem_cons_of_mem _ he)]
    rfl

theorem entries_foldl_insert {l : List (String × α)} {t : Table α}
    (h : Entries.Sorted (t.entries ++ l)) :
    (l.foldl (fun t e => t.insert e.1 e.2) t).entries = t.entries ++ l := by
  induction l generalizing t with
  | nil => exact (List.append_nil _).symm
  | cons e l ih =>
    have hlt : ∀ x ∈ t.entries, x.1 < e.1 := fun x hx =>
      (List.pairwise_append.mp h).2.2 x hx e List.mem_cons_self
    have hinsert : (t.insert e.1 e.2).entries = t.entries ++ [e] := insertEntry_of_lt hlt
    have happend : t.entries ++ e :: l = (t.insert e.1 e.2).entries ++ l := by
      rw [hinsert, List.append_assoc, List.singleton_append]
    rw [happend] at h ⊢
    exact ih h

/-- The table of a list that is in order is the list. -/
theorem entries_ofList {l : List (String × α)} (h : Entries.Sorted l) : (ofList l).entries = l :=
  entries_foldl_insert h

theorem ext_entries {a b : Table α} (h : a.entries = b.entries) : a = b := by
  cases a; cases b; cases h; rfl

/-- Tables in which every look-up finds the same are the same. -/
theorem ext_get? {a b : Table α} (h : ∀ name, a.get? name = b.get? name) : a = b := by
  refine ext_entries (a.sorted.ext_mem b.sorted fun e => ?_)
  rw [← get?_eq_some_iff_mem, ← get?_eq_some_iff_mem, h e.1]

/-- Storing what is there already changes nothing. -/
theorem insert_of_get?_eq_some {t : Table α} {name : String} {value : α}
    (h : t.get? name = some value) : t.insert name value = t := by
  refine ext_get? fun other => ?_
  rw [get?_insert]
  split
  · next hother => rw [hother, h]
  · rfl

/-- A table that has a value for some name is not empty. -/
theorem isEmpty_eq_false_of_contains {t : Table α} {name : String} (h : t.contains name = true) :
    t.isEmpty = false := by
  obtain ⟨v, hv⟩ := Option.isSome_iff_exists.mp h
  rw [isEmpty, List.isEmpty_eq_false_iff]
  exact List.ne_nil_of_mem (t.get?_eq_some_iff_mem.mp hv)

theorem ofList_entries (t : Table α) : ofList t.entries = t :=
  ext_entries (entries_ofList t.sorted)

end Table

instance {α : Type} [DecidableEq α] : DecidableEq (Table α) := fun a b =>
  decidable_of_iff (a.entries = b.entries)
    ⟨fun h => by cases a; cases b; cases h; rfl, fun h => h ▸ rfl⟩

instance {α : Type} [Repr α] : Repr (Table α) := ⟨fun t n => reprPrec t.entries n⟩

end Dispatch
