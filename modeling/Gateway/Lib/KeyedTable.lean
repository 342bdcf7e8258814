import Mathlib.Tactic
import Mathlib.Data.List.TakeWhile

/-!
# Tables keyed by first occurrence

An event either belongs to one key or concerns every key.  A keyed table has one cell for each
key that has occurred, in the order of first occurrence, and a cell is what the events of its key,
and the general events after its first one, make of an initial value that may differ from cell to
cell.

`table es` is that table as a function of the whole history `es`; `table_broadcast`, `table_known`
and `table_new` say how it grows by one event, and `map_keyOf_table` that a cell knows its key.
-/

namespace KeyedTable

variable {κ α β : Type*} [DecidableEq κ]
variable (key : β → Option κ) (act : α → β → α) (init : ℕ → α)

/-- The keys that have occurred, in the order of first occurrence. -/
def keys (es : List β) : List κ := (es.filterMap key).eraseDups

/-- Whether an event reaches the cell of `k`. -/
def Reaches (k : κ) (e : β) : Prop := key e = none ∨ key e = some k

instance (k : κ) : DecidablePred (Reaches key k) := fun _ => inferInstanceAs (Decidable (_ ∨ _))

/-- The events that made the cell of `k`: from the first one of that key on, those that reach it. -/
def cell (k : κ) (es : List β) : List β :=
  (es.dropWhile fun e => key e ≠ some k).filter (Reaches key k ·)

/-- The table after the history `es`. -/
def table (es : List β) : List α :=
  (keys key es).mapIdx fun i k => (cell key k es).foldl act (init i)

variable {key}

theorem mem_keys {k : κ} {es : List β} : k ∈ keys key es ↔ ∃ e ∈ es, key e = some k := by
  simp [keys, List.mem_filterMap]

/-- Removing duplicates keeps the first occurrences, so only a new last element adds to it. -/
theorem eraseDups_concat (l : List κ) (a : κ) :
    (l ++ [a]).eraseDups = if a ∈ l then l.eraseDups else l.eraseDups ++ [a] := by
  rw [List.eraseDups_append]
  by_cases h : a ∈ l
  · simp [List.removeAll, h]
  · have hr : [a].removeAll l = [a] := by simp [List.removeAll, h]
    rw [if_neg h, hr, List.eraseDups_cons, List.filter_nil, List.eraseDups_nil]

theorem nodup_eraseDups (l : List κ) : l.eraseDups.Nodup := by
  induction l using List.reverseRecOn with
  | nil => simp
  | append_singleton l a ih =>
    rw [eraseDups_concat]
    split_ifs with h
    · exact ih
    · rw [← List.concat_eq_append]
      exact ih.concat fun hm => h (List.mem_eraseDups.mp hm)

theorem nodup_keys (es : List β) : (keys key es).Nodup := nodup_eraseDups _

theorem keys_concat_none {e : β} (es : List β) (h : key e = none) :
    keys key (es ++ [e]) = keys key es := by
  simp [keys, h]

theorem keys_concat {e : β} {k : κ} (es : List β) (h : key e = some k) :
    keys key (es ++ [e]) = if k ∈ keys key es then keys key es else keys key es ++ [k] := by
  have hmap : (es ++ [e]).filterMap key = es.filterMap key ++ [k] := by simp [h]
  rw [keys, hmap, eraseDups_concat]
  simp only [keys, List.mem_eraseDups]

theorem keys_concat_mem {e : β} {k : κ} {es : List β} (h : key e = some k)
    (hk : k ∈ keys key es) : keys key (es ++ [e]) = keys key es := by
  rw [keys_concat es h, if_pos hk]

theorem keys_concat_notMem {e : β} {k : κ} {es : List β} (h : key e = some k)
    (hk : k ∉ keys key es) : keys key (es ++ [e]) = keys key es ++ [k] := by
  rw [keys_concat es h, if_neg hk]

/-! ### Growth of a cell -/

/-- A key that has occurred collects every later event that reaches it. -/
theorem cell_concat_of_mem {k : κ} {es : List β} (hk : k ∈ keys key es) (e : β) :
    cell key k (es ++ [e]) = cell key k es ++ if Reaches key k e then [e] else [] := by
  obtain ⟨e₀, he₀, hk₀⟩ := mem_keys.mp hk
  have hdrop : (es ++ [e]).dropWhile (fun e => key e ≠ some k) =
      es.dropWhile (fun e => key e ≠ some k) ++ [e] := by
    rw [List.dropWhile_append, if_neg]
    intro hnil
    rw [List.isEmpty_iff, List.dropWhile_eq_nil_iff] at hnil
    simpa [hk₀] using hnil e₀ he₀
  rw [cell, hdrop, List.filter_append, cell]
  by_cases hr : Reaches key k e <;> simp [hr]

/-- The first event of a key starts its cell. -/
theorem cell_concat_new {k : κ} {es : List β} {e : β} (h : key e = some k)
    (hk : k ∉ keys key es) : cell key k (es ++ [e]) = [e] := by
  have hes : ∀ x ∈ es, key x ≠ some k := fun x hx hkx => hk (mem_keys.mpr ⟨x, hx, hkx⟩)
  have hdrop : (es ++ [e]).dropWhile (fun e => key e ≠ some k) = [e] := by
    rw [List.dropWhile_append_of_pos (by simpa using hes)]
    simp [h]
  rw [cell, hdrop]
  simp [Reaches, h]

/-- The cell of a key that has occurred starts with an event of that key. -/
theorem exists_cell_eq_cons {k : κ} {es : List β} (hk : k ∈ keys key es) :
    ∃ e rest, key e = some k ∧ cell key k es = e :: rest := by
  obtain ⟨e₀, he₀, hk₀⟩ := mem_keys.mp hk
  have hne : es.dropWhile (fun e => key e ≠ some k) ≠ [] := by
    intro hnil
    simpa [hk₀] using List.dropWhile_eq_nil_iff.mp hnil e₀ he₀
  obtain ⟨e, rest, hcons⟩ := List.exists_cons_of_ne_nil hne
  have he : key e = some k := by
    have hhead := List.head?_dropWhile_not (fun e => decide (key e ≠ some k)) es
    rw [hcons, List.head?_cons] at hhead
    simpa using hhead
  refine ⟨e, rest.filter (Reaches key k ·), he, ?_⟩
  have hr : Reaches key k e := Or.inr he
  rw [cell, hcons, List.filter_cons_of_pos (by simpa using hr)]

/-! ### Growth of the table -/

variable {act init}

@[simp] theorem table_nil : table key act init [] = [] := rfl

theorem length_table (es : List β) : (table key act init es).length = (keys key es).length := by
  simp [table]

theorem getElem?_table (es : List β) (i : ℕ) :
    (table key act init es)[i]? =
      (keys key es)[i]?.map fun k => (cell key k es).foldl act (init i) := by
  simp [table]

/-- Two tables over one history are equal when their cells are. -/
theorem table_eq_iff {init' : ℕ → α} (es : List β) :
    table key act init es = table key act init' es ↔
      ∀ i k, (keys key es)[i]? = some k →
        (cell key k es).foldl act (init i) = (cell key k es).foldl act (init' i) := by
  constructor
  · intro h i k hk
    have hi := congrArg (·[i]?) h
    simpa [getElem?_table, hk] using hi
  · intro h
    apply List.ext_getElem?
    intro i
    rw [getElem?_table, getElem?_table]
    cases hk : (keys key es)[i]? with
    | none => rfl
    | some k => rw [Option.map_some, Option.map_some, h i k hk]

theorem table_broadcast {e : β} (es : List β) (h : key e = none) :
    table key act init (es ++ [e]) = (table key act init es).map (act · e) := by
  apply List.ext_getElem?
  intro i
  rw [getElem?_table, keys_concat_none es h, List.getElem?_map, getElem?_table, Option.map_map]
  cases hk : (keys key es)[i]? with
  | none => rfl
  | some k =>
    have hr : Reaches key k e := Or.inl h
    simp [cell_concat_of_mem (List.mem_of_getElem? hk), hr]

theorem table_new {e : β} {k : κ} {es : List β} (h : key e = some k) (hk : k ∉ keys key es) :
    table key act init (es ++ [e]) =
      table key act init es ++ [act (init (keys key es).length) e] := by
  apply List.ext_getElem?
  intro i
  rw [getElem?_table, keys_concat_notMem h hk]
  rcases lt_trichotomy i (keys key es).length with hi | rfl | hi
  · rw [List.getElem?_append_left hi, List.getElem?_append_left (by rwa [length_table]),
      getElem?_table, List.getElem?_eq_getElem hi]
    have hmem : (keys key es)[i] ∈ keys key es := List.getElem_mem hi
    have hr : ¬ Reaches key (keys key es)[i] e := by
      rintro (h' | h')
      · rw [h] at h'; cases h'
      · rw [h] at h'; cases h'; exact hk hmem
    simp [cell_concat_of_mem hmem, hr]
  · have hlen : (table key act init es).length = (keys key es).length := length_table es
    rw [List.getElem?_append_right le_rfl, ← hlen, List.getElem?_append_right le_rfl]
    simp [cell_concat_new h hk]
  · rw [List.getElem?_eq_none (by simp; omega),
      List.getElem?_eq_none (by simp [length_table]; omega)]
    rfl

theorem table_known {e : β} {k : κ} {es : List β} (h : key e = some k) (hk : k ∈ keys key es) :
    table key act init (es ++ [e]) =
      (table key act init es).modify ((keys key es).idxOf k) (act · e) := by
  apply List.ext_getElem?
  intro i
  rw [getElem?_table, keys_concat_mem h hk, List.getElem?_modify, getElem?_table]
  cases hi : (keys key es)[i]? with
  | none => rfl
  | some k' =>
    have hmem : k' ∈ keys key es := List.mem_of_getElem? hi
    obtain ⟨hlt, hget⟩ := List.getElem?_eq_some_iff.mp hi
    -- the cell at `i` is touched exactly when `i` is the index of `k`
    by_cases hkk : k' = k
    · have hidx : (keys key es).idxOf k = i := by
        rw [← hkk, ← hget]
        exact (nodup_keys es).idxOf_getElem i hlt
      have hr : Reaches key k' e := Or.inr (hkk ▸ h)
      simp [cell_concat_of_mem hmem, hr, hidx]
    · have hidx : (keys key es).idxOf k ≠ i := by
        rintro rfl
        exact hkk (by rw [← hget, List.getElem_idxOf])
      have hr : ¬ Reaches key k' e := by
        rintro (h' | h')
        · rw [h] at h'; cases h'
        · rw [h] at h'; cases h'; exact hkk rfl
      simp [cell_concat_of_mem hmem, hr, hidx]

/-! ### Cells know their key -/

section KeyOf

variable {keyOf : α → κ}

/-- If an event of a key leaves that key in the cell and a general event leaves the key alone,
then the keys of the cells are the keys that have occurred. -/
theorem map_keyOf_table (hset : ∀ a e k, key e = some k → keyOf (act a e) = k)
    (hkeep : ∀ a e, key e = none → keyOf (act a e) = keyOf a) (es : List β) :
    (table key act init es).map keyOf = keys key es := by
  induction es using List.reverseRecOn with
  | nil => simp [keys]
  | append_singleton es e ih =>
    cases h : key e with
    | none =>
      rw [table_broadcast es h, keys_concat_none es h, List.map_map, ← ih]
      exact List.map_congr_left fun a _ => hkeep a e h
    | some k =>
      by_cases hk : k ∈ keys key es
      · rw [table_known h hk, keys_concat_mem h hk, ← ih]
        apply List.ext_getElem?
        intro i
        rw [List.getElem?_map, List.getElem?_modify, List.getElem?_map, ih]
        cases hi : (table key act init es)[i]? with
        | none => rfl
        | some a =>
          by_cases hidx : (keys key es).idxOf k = i
          · have hka : keyOf a = k := by
              have hget : (keys key es)[i]? = some (keyOf a) := by
                rw [← ih, List.getElem?_map, hi]; rfl
              have hlt : (keys key es).idxOf k < (keys key es).length :=
                List.idxOf_lt_length_iff.mpr hk
              rw [← hidx, List.getElem?_eq_getElem hlt, List.getElem_idxOf] at hget
              exact (Option.some.inj hget).symm
            simp [hidx, hset a e k h, hka]
          · simp [hidx]
      · rw [table_new h hk, keys_concat_notMem h hk, List.map_append, ih]
        simp [hset _ e k h]

section Members

variable (hset : ∀ a e k, key e = some k → keyOf (act a e) = k)
  (hkeep : ∀ a e, key e = none → keyOf (act a e) = keyOf a)

include hset hkeep

theorem getElem?_keys_of_table {es : List β} {i : ℕ} {a : α}
    (h : (table key act init es)[i]? = some a) : (keys key es)[i]? = some (keyOf a) := by
  rw [← map_keyOf_table hset hkeep es, List.getElem?_map, h]
  rfl

/-- After one more event a cell holds what the event makes of it if it reaches it. -/
theorem getElem?_table_concat {es : List β} {i : ℕ} {a : α}
    (h : (table key act init es)[i]? = some a) (e : β) :
    (table key act init (es ++ [e]))[i]? =
      some (if Reaches key (keyOf a) e then act a e else a) := by
  have hk := getElem?_keys_of_table hset hkeep h
  have hmem : keyOf a ∈ keys key es := List.mem_of_getElem? hk
  have hk' : (keys key (es ++ [e]))[i]? = some (keyOf a) := by
    cases he : key e with
    | none => rw [keys_concat_none es he, hk]
    | some k =>
      rw [keys_concat es he]
      split_ifs
      · exact hk
      · rw [List.getElem?_append_left (List.getElem?_eq_some_iff.mp hk).1, hk]
  rw [getElem?_table, hk, Option.map_some, Option.some.injEq] at h
  rw [getElem?_table, hk', Option.map_some, cell_concat_of_mem hmem]
  split_ifs with hr
  · rw [List.foldl_concat, h]
  · rw [List.append_nil, h]

/-- The cells of the longer table: those there were, and that of a new key. -/
theorem mem_table_concat {es : List β} {e : β} {a' : α} (h : a' ∈ table key act init (es ++ [e])) :
    (∃ a ∈ table key act init es, a' = if Reaches key (keyOf a) e then act a e else a) ∨
      ∃ i k, key e = some k ∧ k ∉ keys key es ∧ a' = act (init i) e := by
  obtain ⟨i, hi⟩ := List.getElem?_of_mem h
  cases ha : (table key act init es)[i]? with
  | some a =>
    rw [getElem?_table_concat hset hkeep ha, Option.some.injEq] at hi
    exact Or.inl ⟨a, List.mem_of_getElem? ha, hi.symm⟩
  | none =>
    have hlen : (table key act init es).length ≤ i := List.getElem?_eq_none_iff.mp ha
    cases he : key e with
    | none =>
      rw [table_broadcast es he, List.getElem?_eq_none (by simpa using hlen)] at hi
      cases hi
    | some k =>
      by_cases hk : k ∈ keys key es
      · rw [table_known he hk, List.getElem?_eq_none (by simpa using hlen)] at hi
        cases hi
      · rw [table_new he hk, List.getElem?_append_right hlen] at hi
        refine Or.inr ⟨(keys key es).length, k, rfl, hk, ?_⟩
        exact List.mem_singleton.mp (List.mem_of_getElem? hi)

end Members

end KeyOf

end KeyedTable
