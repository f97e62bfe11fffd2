import Mathlib.Data.List.Induction
import Mathlib.Data.List.Perm.Basic
import TableGateway.Statement.Condition

-- The laws of grouping. The pairs of a request are read key by key, and each
-- time all pairs are looked through again. Nothing is lost or doubled by that:
-- the groups are the pairs in another order, one that only moves keys together.

namespace TableGateway.Params

/-! ## Keys in order -/

/-- The place of the first pair with a key. -/
def firstPlace (params : Params) (key : String) : Nat :=
  params.pairs.findIdx fun pair => pair.1 == key

/-- The pairs with a key, in order. -/
def block (params : Params) (key : String) : List (String × String) :=
  params.pairs.filter fun pair => pair.1 == key

theorem mem_addKey {keys : List String} {key x : String} :
    x ∈ addKey keys key ↔ x ∈ keys ∨ x = key := by
  unfold addKey
  split
  · rename_i h
    constructor
    · exact Or.inl
    · rintro (hx | rfl)
      · exact hx
      · exact h
  · simp

theorem mem_keys {params : Params} {key : String} :
    key ∈ params.keys ↔ ∃ pair ∈ params.pairs, pair.1 = key := by
  obtain ⟨pairs⟩ := params
  induction pairs using List.reverseRecOn with
  | nil => simp [keys]
  | append_singleton pairs pair ih =>
    have hkeys : keys ⟨pairs ++ [pair]⟩ = addKey (keys ⟨pairs⟩) pair.1 := keys_push ⟨pairs⟩ _ _
    rw [hkeys, mem_addKey, ih]
    simp [or_and_right, exists_or, eq_comm]

/-- A pair at the end moves no first place. -/
theorem firstPlace_push {params : Params} {key : String} (h : key ∈ params.keys) (k v : String) :
    (params.push k v).firstPlace key = params.firstPlace key := by
  obtain ⟨pair, hmem, hkey⟩ := mem_keys.mp h
  have hlt : params.pairs.findIdx (fun pair => pair.1 == key) < params.pairs.length :=
    List.findIdx_lt_length_of_exists ⟨pair, hmem, by simp [hkey]⟩
  simp [firstPlace, push, List.findIdx_append, hlt]

theorem firstPlace_lt {params : Params} {key : String} (h : key ∈ params.keys) :
    params.firstPlace key < params.pairs.length := by
  obtain ⟨pair, hmem, hkey⟩ := mem_keys.mp h
  exact List.findIdx_lt_length_of_exists ⟨pair, hmem, by simp [hkey]⟩

/-- A key that was not there has its first place at the end. -/
theorem firstPlace_push_new {params : Params} {key : String} (h : key ∉ params.keys) (v : String) :
    (params.push key v).firstPlace key = params.pairs.length := by
  have hnone : ∀ pair ∈ params.pairs, ¬ pair.1 = key := fun pair hmem hkey =>
    h (mem_keys.mpr ⟨pair, hmem, hkey⟩)
  have hlen : params.pairs.findIdx (fun pair => pair.1 == key) = params.pairs.length := by
    rw [List.findIdx_eq_length]
    simpa using hnone
  simp [firstPlace, push, List.findIdx_append, hlen]

/-- The keys stand in the order of their first pairs, so each stands there once. -/
theorem keys_pairwise (params : Params) :
    params.keys.Pairwise fun a b => params.firstPlace a < params.firstPlace b := by
  obtain ⟨pairs⟩ := params
  induction pairs using List.reverseRecOn with
  | nil => exact .nil
  | append_singleton pairs pair ih =>
    have hkeys : keys ⟨pairs ++ [pair]⟩ = addKey (keys ⟨pairs⟩) pair.1 := keys_push ⟨pairs⟩ _ _
    have hold : (keys ⟨pairs⟩).Pairwise fun a b =>
        firstPlace ⟨pairs ++ [pair]⟩ a < firstPlace ⟨pairs ++ [pair]⟩ b := by
      refine ih.imp_of_mem ?_
      intro a b ha hb hab
      rw [show (⟨pairs ++ [pair]⟩ : Params) = push ⟨pairs⟩ pair.1 pair.2 from rfl,
        firstPlace_push ha, firstPlace_push hb]
      exact hab
    rw [hkeys]
    unfold addKey
    split
    · exact hold
    · rename_i hnew
      refine List.pairwise_append.mpr ⟨hold, List.pairwise_singleton _ _, ?_⟩
      intro a ha b hb
      obtain rfl := List.mem_singleton.mp hb
      rw [show (⟨pairs ++ [pair]⟩ : Params) = push ⟨pairs⟩ pair.1 pair.2 from rfl,
        firstPlace_push ha, firstPlace_push_new hnew]
      exact firstPlace_lt ha

theorem keys_nodup (params : Params) : params.keys.Nodup :=
  params.keys_pairwise.imp fun h => by
    rintro rfl
    exact Nat.lt_irrefl _ h

/-! ## Blocks of one key -/

theorem mem_block {params : Params} {key : String} {pair : String × String} :
    pair ∈ params.block key ↔ pair ∈ params.pairs ∧ pair.1 = key := by
  simp [block]

/-- The values of a key with the key before each are the pairs with it. -/
theorem map_getAll (params : Params) (key : String) :
    (params.getAll key).map (fun value => (key, value)) = params.block key := by
  simp only [getAll, block, List.map_map]
  conv_rhs => rw [← List.map_id (List.filter _ _)]
  apply List.map_congr_left
  intro pair hpair
  have hkey : pair.1 = key := by simpa using (List.mem_filter.mp hpair).2
  simp [← hkey]

theorem grouped_eq (params : Params) : params.grouped = params.keys.flatMap params.block := by
  unfold grouped
  exact congrArg (params.keys.flatMap ·) (funext params.map_getAll)

/-- The keys that name columns. -/
def columnKeys (params : Params) : List String :=
  params.keys.filter isColumnKey

/-- The pairs whose keys name columns, in the order of the request. -/
def columnPairs (params : Params) : List (String × String) :=
  params.pairs.filter fun pair => isColumnKey pair.1

theorem filters_eq (params : Params) : params.filters = params.columnKeys.flatMap params.block := by
  unfold filters columnKeys
  rw [grouped_eq, List.filter_flatMap]
  induction params.keys with
  | nil => rfl
  | cons key rest ih =>
    have hblock : (params.block key).filter (fun pair => isColumnKey pair.1) =
        if isColumnKey key then params.block key else [] := by
      split
      · rename_i hcol
        apply List.filter_eq_self.mpr
        intro pair hpair
        rw [(mem_block.mp hpair).2, hcol]
      · rename_i hcol
        apply List.filter_eq_nil_iff.mpr
        intro pair hpair
        rw [(mem_block.mp hpair).2]
        exact hcol
    rw [List.flatMap_cons, hblock, ih, List.filter_cons]
    split <;> simp

theorem mem_columnKeys {params : Params} {key : String} :
    key ∈ params.columnKeys ↔ ∃ pair ∈ params.columnPairs, pair.1 = key := by
  simp only [columnKeys, columnPairs, List.mem_filter, mem_keys]
  constructor
  · rintro ⟨⟨pair, hmem, rfl⟩, hcol⟩
    exact ⟨pair, ⟨hmem, hcol⟩, rfl⟩
  · rintro ⟨pair, ⟨hmem, hcol⟩, rfl⟩
    exact ⟨⟨pair, hmem, rfl⟩, hcol⟩

theorem filter_addKey (p : String → Bool) (keys : List String) (key : String) :
    (addKey keys key).filter p = if p key then addKey (keys.filter p) key else keys.filter p := by
  by_cases hold : key ∈ keys <;> by_cases hp : p key = true <;> simp [addKey, hold, hp]

/-- The keys that name columns are those of the pairs that do, in the same order. -/
theorem columnKeys_eq (params : Params) : params.columnKeys = keys ⟨params.columnPairs⟩ := by
  obtain ⟨pairs⟩ := params
  induction pairs using List.reverseRecOn with
  | nil => rfl
  | append_singleton pairs pair ih =>
    have hkeys : columnKeys ⟨pairs ++ [pair]⟩ = (addKey (keys ⟨pairs⟩) pair.1).filter isColumnKey :=
      congrArg (List.filter isColumnKey) (keys_push ⟨pairs⟩ pair.1 pair.2)
    rw [hkeys, filter_addKey, ← columnKeys, ih]
    by_cases hcol : isColumnKey pair.1 = true
    · have hpairs : columnPairs ⟨pairs ++ [pair]⟩ = columnPairs ⟨pairs⟩ ++ [pair] := by
        simp [columnPairs, hcol]
      rw [if_pos hcol, hpairs]
      exact (keys_push ⟨columnPairs ⟨pairs⟩⟩ pair.1 pair.2).symm
    · have hpairs : columnPairs ⟨pairs ++ [pair]⟩ = columnPairs ⟨pairs⟩ := by
        simp [columnPairs, hcol]
      rw [if_neg hcol, hpairs]

/-- The filters are the pairs whose keys name columns, grouped, and nothing else counts for them. -/
theorem filters_eq_grouped (params : Params) : params.filters = grouped ⟨params.columnPairs⟩ := by
  rw [filters_eq, columnKeys_eq, grouped_eq]
  refine List.flatMap_congr fun key hkey => ?_
  obtain ⟨pair, hpair, rfl⟩ := mem_keys.mp hkey
  have hcol : isColumnKey pair.1 = true := (List.mem_filter.mp hpair).2
  simp only [block, columnPairs, List.filter_filter]
  refine List.filter_congr fun other _ => ?_
  by_cases h : other.1 = pair.1 <;> simp [h, hcol]

theorem columnKeys_pairwise (params : Params) :
    params.columnKeys.Pairwise fun a b => params.firstPlace a < params.firstPlace b :=
  params.keys_pairwise.filter _

/-- Of blocks side by side, those of other keys hold no pair with a key. -/
theorem filter_flatMap_block (params : Params) {keys : List String} (nodup : keys.Nodup)
    (key : String) :
    (keys.flatMap params.block).filter (fun pair => pair.1 == key) =
      if key ∈ keys then params.block key else [] := by
  induction keys with
  | nil => rfl
  | cons k rest ih =>
    obtain ⟨hk, hrest⟩ := List.nodup_cons.mp nodup
    rw [List.flatMap_cons, List.filter_append, ih hrest]
    by_cases h : k = key
    · subst h
      have hown : (params.block k).filter (fun pair => pair.1 == k) = params.block k := by
        simp [block, List.filter_filter]
      simp [hown, hk]
    · have hother : (params.block k).filter (fun pair => pair.1 == key) = [] := by
        apply List.filter_eq_nil_iff.mpr
        intro pair hpair
        simpa [(mem_block.mp hpair).2] using h
      simp [hother, Ne.symm h]

/-- Grouping moves filters, and neither loses nor doubles one. -/
theorem filters_perm (params : Params) : params.filters.Perm params.columnPairs := by
  apply List.perm_iff_count.mpr
  intro pair
  have nodup : params.columnKeys.Nodup := params.keys_nodup.filter _
  have hcount : params.filters.count pair =
      if pair.1 ∈ params.columnKeys then (params.block pair.1).count pair else 0 := by
    rw [filters_eq, ← List.count_filter (p := fun p => p.1 == pair.1) (by simp),
      filter_flatMap_block params nodup]
    split <;> simp
  rw [hcount]
  by_cases hcol : isColumnKey pair.1 = true
  · rw [columnPairs, List.count_filter (a := pair) hcol]
    split
    · rw [block, List.count_filter (by simp)]
    · rename_i hkey
      symm
      apply List.count_eq_zero.mpr
      intro hmem
      exact hkey (mem_columnKeys.mpr ⟨pair, List.mem_filter.mpr ⟨hmem, hcol⟩, rfl⟩)
  · have hkey : pair.1 ∉ params.columnKeys := fun h => hcol (List.mem_filter.mp h).2
    rw [if_neg hkey]
    symm
    apply List.count_eq_zero.mpr
    intro hmem
    exact hcol (List.mem_filter.mp hmem).2

/-- A key names a column exactly when it is no reserved key in any letter case. -/
theorem isColumnKey_iff {key : String} :
    isColumnKey key = true ↔ Text.lower key ∉ reservedKeys := by
  have hlower : ∀ reserved ∈ reservedKeys, Text.lower reserved = reserved := by decide
  have hkey : isColumnKey key = true ↔
      ∀ reserved ∈ reservedKeys, Text.sameLetters reserved key = false := by
    simp [isColumnKey]
  rw [hkey]
  constructor
  · intro hnone hmem
    have hself := hnone _ hmem
    rw [Text.sameLetters, hlower _ hmem] at hself
    simp at hself
  · intro h reserved hreserved
    rw [Text.sameLetters, hlower reserved hreserved]
    exact beq_false_of_ne fun heq => h (heq ▸ hreserved)

end TableGateway.Params
