import Dispatchers.Dictionary
import Mathlib.Data.List.Nodup
import Mathlib.Data.String.Basic
import Mathlib.Order.Basic

namespace Dispatchers.Dictionary

variable {α : Type}

theorem lookup_cons (key k : String) (v : α) (rest : List (String × α)) :
    ((k, v) :: rest).lookup key = if key = k then some v else rest.lookup key := by
  rw [List.lookup_cons]
  by_cases same : key = k
  · simp [same]
  · have apart : (key == k) = false := beq_eq_false_iff_ne.mpr same
    rw [apart, if_neg same]

theorem lookup_insertEntry (key other : String) (value : α) (entries : List (String × α)) :
    (insertEntry key value entries).lookup other =
      if other = key then some value else entries.lookup other := by
  induction entries with
  | nil => rw [insertEntry, lookup_cons]
  | cons entry rest ih =>
    obtain ⟨k, v⟩ := entry
    unfold insertEntry
    by_cases same : other = key
    · subst same
      split
      · simp
      · split
        · simp
        · rename_i apart
          simp [lookup_cons, apart, ih]
    · split
      · simp [lookup_cons, same]
      · split
        · rename_i equal
          subst equal
          simp [lookup_cons, same]
        · simp only [lookup_cons, ih, same, if_false]

theorem get?_insert (d : Dictionary α) (key other : String) (value : α) :
    (d.insert key value).get? other = if other = key then some value else d.get? other :=
  lookup_insertEntry key other value d.entries

theorem nodup_keys (d : Dictionary α) : d.keys.Nodup :=
  d.sorted.imp fun before => ne_of_lt before

theorem mem_keys_iff {d : Dictionary α} {key : String} :
    key ∈ d.keys ↔ ∃ value, d.get? key = some value := by
  unfold keys get?
  generalize d.entries = entries
  induction entries with
  | nil => simp
  | cons entry rest ih =>
    obtain ⟨k, v⟩ := entry
    by_cases same : key = k
    · simp [same]
    · rw [List.map_cons, List.mem_cons, ih]
      simp [lookup_cons, same]

theorem contains_iff {d : Dictionary α} {key : String} : d.contains key = true ↔ key ∈ d.keys := by
  simp [contains, keys]

theorem mem_entries_of_get? {d : Dictionary α} {key : String} {value : α}
    (found : d.get? key = some value) : (key, value) ∈ d.entries := by
  unfold get? at found
  generalize d.entries = entries at found ⊢
  induction entries with
  | nil => simp at found
  | cons entry rest ih =>
    obtain ⟨k, v⟩ := entry
    by_cases same : key = k
    · subst same
      have equal : v = value := by simpa using found
      simp [equal]
    · have later : rest.lookup key = some value := by simpa [lookup_cons, same] using found
      exact List.mem_cons_of_mem _ (ih later)

theorem mem_values_of_get? {d : Dictionary α} {key : String} {value : α}
    (found : d.get? key = some value) : value ∈ d.values :=
  List.mem_map_of_mem (mem_entries_of_get? found)

theorem get?_of_mem {d : Dictionary α} {key : String} {value : α}
    (member : (key, value) ∈ d.entries) : d.get? key = some value := by
  have nodup := d.nodup_keys
  unfold keys at nodup
  unfold get?
  generalize d.entries = entries at nodup member ⊢
  induction entries with
  | nil => simp at member
  | cons entry rest ih =>
    obtain ⟨k, v⟩ := entry
    obtain ⟨fresh, later⟩ := List.nodup_cons.mp nodup
    rcases List.mem_cons.mp member with same | member
    · cases same
      simp
    · have known : key ∈ rest.map Prod.fst := List.mem_map_of_mem member
      have apart : key ≠ k := fun same => fresh (same ▸ known)
      have next := ih later member
      simpa [lookup_cons, apart] using next

theorem exists_get?_of_mem_values {d : Dictionary α} {value : α} (member : value ∈ d.values) :
    ∃ key, d.get? key = some value := by
  obtain ⟨⟨key, _⟩, listed, rfl⟩ := List.mem_map.mp member
  exact ⟨key, get?_of_mem listed⟩

/-- The first entry with a good value has the least key of all that have one. -/
theorem find?_entries_iff (d : Dictionary α) (good : α → Bool) (key : String) :
    (d.entries.find? fun entry => good entry.2).map Prod.fst = some key ↔
      (∃ value, d.get? key = some value ∧ good value = true) ∧
        ∀ other value, d.get? other = some value → good value = true → key ≤ other := by
  have least : ∀ entry, d.entries.find? (fun entry => good entry.2) = some entry →
      (d.get? entry.1 = some entry.2 ∧ good entry.2 = true) ∧
        ∀ other value, d.get? other = some value → good value = true → entry.1 ≤ other := by
    intro entry found
    obtain ⟨holds, front, rest, split, none⟩ := List.find?_eq_some_iff_append.mp found
    refine ⟨⟨get?_of_mem (List.mem_of_find?_eq_some found), holds⟩, ?_⟩
    intro other value bound fine
    have listed := mem_entries_of_get? bound
    have sorted := d.sorted
    rw [split, List.map_append, List.map_cons] at sorted
    rw [split] at listed
    rcases List.mem_append.mp listed with before | here
    · have absent := none _ before
      simp [fine] at absent
    rcases List.mem_cons.mp here with rfl | behind
    · exact le_refl _
    · have after := (List.pairwise_append.mp sorted).2.1
      exact le_of_lt ((List.pairwise_cons.mp after).1 other (List.mem_map_of_mem behind))
  constructor
  · intro found
    obtain ⟨entry, first, rfl⟩ := Option.map_eq_some_iff.mp found
    obtain ⟨bound, minimal⟩ := least entry first
    exact ⟨⟨entry.2, bound⟩, minimal⟩
  · rintro ⟨⟨value, bound, holds⟩, minimal⟩
    obtain ⟨entry, first⟩ : ∃ entry, d.entries.find? (fun entry => good entry.2) = some entry :=
      Option.isSome_iff_exists.mp (List.find?_isSome.mpr ⟨_, mem_entries_of_get? bound, holds⟩)
    obtain ⟨known, lower⟩ := least entry first
    rw [first, Option.map_some]
    exact congrArg some (le_antisymm (lower key value bound holds) (minimal _ _ known.1 known.2))

theorem mem_keys_ofList {key : String} {entries : List (String × α)} :
    key ∈ (ofList entries).keys ↔ key ∈ entries.map Prod.fst := by
  suffices ∀ d : Dictionary α,
      key ∈ (entries.foldl (fun d entry => d.insert entry.1 entry.2) d).keys ↔
        key ∈ d.keys ∨ key ∈ entries.map Prod.fst by
    simpa only [ofList, empty, keys, List.map_nil, List.not_mem_nil, false_or] using this empty
  induction entries with
  | nil => simp
  | cons entry entries ih =>
    obtain ⟨k, v⟩ := entry
    intro d
    have inserted : key ∈ (d.insert k v).keys ↔ key = k ∨ key ∈ d.keys :=
      mem_keys_insertEntry k key v d.entries
    rw [List.foldl_cons, ih, inserted, List.map_cons, List.mem_cons, or_assoc, or_left_comm]

theorem insertEntry_map {β : Type} (f : α → β) (key : String) (value : α)
    (entries : List (String × α)) :
    insertEntry key (f value) (entries.map fun (k, v) => (k, f v)) =
      (insertEntry key value entries).map fun (k, v) => (k, f v) := by
  induction entries with
  | nil => rfl
  | cons entry entries ih =>
    obtain ⟨k, v⟩ := entry
    simp only [insertEntry, List.map_cons, ih]
    split
    · rfl
    · split <;> rfl

theorem ofList_map {β : Type} (f : α → β) (entries : List (String × α)) :
    (ofList (entries.map fun (k, v) => (k, f v))).entries =
      (ofList entries).entries.map fun (k, v) => (k, f v) := by
  suffices ∀ (d : Dictionary α) (e : Dictionary β), e.entries = d.entries.map (fun (k, v) => (k, f v)) →
      ((entries.map fun (k, v) => (k, f v)).foldl (fun e (key, value) => e.insert key value) e).entries =
        (entries.foldl (fun d (key, value) => d.insert key value) d).entries.map
          fun (k, v) => (k, f v) from this empty empty rfl
  induction entries with
  | nil => exact fun _ _ same => same
  | cons entry entries ih =>
    intro d e same
    rw [List.map_cons, List.foldl_cons, List.foldl_cons]
    refine ih _ _ ?_
    exact (congrArg _ same).trans (insertEntry_map f entry.1 entry.2 d.entries)

theorem insertEntry_of_last {key : String} {value : α} {entries : List (String × α)}
    (last : ∀ k ∈ entries.map Prod.fst, k < key) :
    insertEntry key value entries = entries ++ [(key, value)] := by
  induction entries with
  | nil => rfl
  | cons entry rest ih =>
    obtain ⟨k, v⟩ := entry
    obtain ⟨before, later⟩ := List.forall_mem_cons.mp last
    rw [insertEntry, if_neg (lt_asymm before), if_neg (ne_of_gt before), ih later, List.cons_append]

theorem ofList_entries (d : Dictionary α) : ofList d.entries = d := by
  suffices ∀ (entries : List (String × α)) (e : Dictionary α),
      ((e.entries ++ entries).map Prod.fst).Pairwise (· < ·) →
        (entries.foldl (fun e (key, value) => e.insert key value) e).entries = e.entries ++ entries by
    exact Dictionary.ext (this d.entries empty d.sorted)
  intro entries
  induction entries with
  | nil => exact fun e _ => (List.append_nil _).symm
  | cons entry entries ih =>
    intro e sorted
    have last : ∀ k ∈ e.entries.map Prod.fst, k < entry.1 := by
      rw [List.map_append, List.map_cons, List.pairwise_append] at sorted
      exact fun k listed => sorted.2.2 k listed _ (List.mem_cons_self ..)
    have grown : (e.insert entry.1 entry.2).entries = e.entries ++ [entry] := insertEntry_of_last last
    rw [List.foldl_cons, ih _ (by rwa [grown, List.append_assoc]), grown, List.append_assoc]
    rfl

theorem entries_ofList {entries : List (String × α)}
    (sorted : (entries.map Prod.fst).Pairwise (· < ·)) : (ofList entries).entries = entries :=
  congrArg Dictionary.entries (ofList_entries ⟨entries, sorted⟩)

theorem mem_insertEntry {entry : String × α} {key : String} {value : α}
    {entries : List (String × α)} (member : entry ∈ insertEntry key value entries) :
    entry = (key, value) ∨ entry ∈ entries := by
  induction entries with
  | nil => exact .inl (List.mem_singleton.mp member)
  | cons first rest ih =>
    unfold insertEntry at member
    split at member
    · simpa using member
    split at member
    · rcases List.mem_cons.mp member with here | later
      · exact .inl here
      · exact .inr (List.mem_cons_of_mem _ later)
    · rcases List.mem_cons.mp member with here | later
      · exact .inr (here ▸ List.mem_cons_self ..)
      · rcases ih later with new | old
        · exact .inl new
        · exact .inr (List.mem_cons_of_mem _ old)

theorem mem_of_mem_ofList {entry : String × α} {entries : List (String × α)}
    (member : entry ∈ (ofList entries).entries) : entry ∈ entries := by
  suffices ∀ d : Dictionary α,
      entry ∈ (entries.foldl (fun d (key, value) => d.insert key value) d).entries →
        entry ∈ d.entries ∨ entry ∈ entries by
    rcases this empty member with absent | listed
    · cases absent
    · exact listed
  clear member
  induction entries with
  | nil => exact fun d member => .inl member
  | cons first rest ih =>
    intro d member
    rcases ih _ member with bound | later
    · rcases mem_insertEntry bound with rfl | old
      · exact .inr (List.mem_cons_self ..)
      · exact .inl old
    · exact .inr (List.mem_cons_of_mem _ later)

theorem get?_ofList {key : String} {value : α} {entries : List (String × α)}
    (member : key ∈ entries.map Prod.fst) (agree : ∀ other, (key, other) ∈ entries → other = value) :
    (ofList entries).get? key = some value := by
  suffices ∀ d : Dictionary α, key ∈ entries.map Prod.fst ∨ d.get? key = some value →
      (entries.foldl (fun d (key, value) => d.insert key value) d).get? key = some value from
    this empty (.inl member)
  clear member
  induction entries with
  | nil =>
    rintro d (absent | found)
    · cases absent
    · exact found
  | cons entry entries ih =>
    obtain ⟨k, v⟩ := entry
    intro d known
    refine ih (fun other later => agree other (List.mem_cons_of_mem _ later)) _ ?_
    rw [get?_insert]
    by_cases same : key = k
    · subst same
      rw [if_pos rfl, agree v (List.mem_cons_self ..)]
      exact .inr rfl
    · rw [if_neg same]
      rcases known with listed | found
      · rcases List.mem_cons.mp listed with first | later
        · exact absurd first same
        · exact .inl later
      · exact .inr found

theorem get?_ofList_of_nodup {key : String} {value : α} {entries : List (String × α)}
    (distinct : (entries.map Prod.fst).Nodup) (member : (key, value) ∈ entries) :
    (ofList entries).get? key = some value := by
  refine get?_ofList (List.mem_map_of_mem member) fun other listed => ?_
  exact congrArg Prod.snd (List.inj_on_of_nodup_map distinct listed member rfl)

theorem get?_ofList_of_absent {key : String} {entries : List (String × α)}
    (absent : key ∉ entries.map Prod.fst) : (ofList entries).get? key = none := by
  refine Option.eq_none_iff_forall_not_mem.mpr fun value found => ?_
  exact absent (mem_keys_ofList.mp (mem_keys_iff.mpr ⟨value, found⟩))

end Dispatchers.Dictionary
