import Mathlib.Tactic

/-!
# Loops over an allocated block

A block of memory is the list of its cells.  Every access names an index and fails with that index
when it lies outside the block, so that a loop which runs past the allocation is an error of the
model and not a silent default.

`search`, `modifyUpTo` and `copy` are the three `for (idx = 0; idx < count; idx++)` loops that a
program runs over the first `count` cells; within the block they are `findIdx?`, `map` and `take`.
-/

namespace Block

variable {α : Type}

/-- Read one cell. -/
def load (block : List α) (i : ℕ) : Except ℕ α :=
  match block[i]? with
  | some a => .ok a
  | none => .error i

/-- Write one cell. -/
def store (block : List α) (i : ℕ) (a : α) : Except ℕ (List α) :=
  if i < block.length then .ok (block.set i a) else .error i

/-- Look for the first cell with `p` among `n` cells from `i` on, reading each on the way. -/
def search (p : α → Bool) (block : List α) : ℕ → ℕ → Except ℕ (Option ℕ)
  | 0, _ => .ok none
  | n + 1, i => do
      let a ← load block i
      if p a then .ok (some i) else search p block n (i + 1)

/-- Rewrite `n` cells from `i` on. -/
def modifyUpTo (f : α → α) : ℕ → ℕ → List α → Except ℕ (List α)
  | 0, _, block => .ok block
  | n + 1, i, block => do
      let a ← load block i
      let block' ← store block i (f a)
      modifyUpTo f n (i + 1) block'

/-- Copy out `n` cells from `i` on. -/
def copy (block : List α) : ℕ → ℕ → Except ℕ (List α)
  | 0, _ => .ok []
  | n + 1, i => do
      let a ← load block i
      let rest ← copy block n (i + 1)
      .ok (a :: rest)

/-- `realloc`: the old cells stay, cells that the block did not have hold what the allocator
happens to return for them. -/
def realloc (fresh : ℕ → α) (block : List α) (n : ℕ) : List α :=
  (List.range n).map fun i => block.getD i (fresh i)

theorem load_eq {block : List α} {i : ℕ} (h : i < block.length) : load block i = .ok block[i] := by
  simp [load, List.getElem?_eq_getElem h]

theorem store_eq {block : List α} {i : ℕ} (h : i < block.length) (a : α) :
    store block i a = .ok (block.set i a) := if_pos h

/-- Writing back what a function makes of a cell modifies the block there. -/
theorem store_apply {block : List α} {i : ℕ} (h : i < block.length) (f : α → α) :
    store block i (f block[i]) = .ok (block.modify i f) := by
  rw [store_eq h, List.modify_eq_set_get f h]
  rfl

/-- One pass of the loop at the index `i` of `n`. -/
theorem search_of_lt (p : α → Bool) {block : List α} {n i : ℕ} (hn : i < n)
    (hi : i < block.length) :
    search p block (n - i) i =
      if p block[i] then .ok (some i) else search p block (n - (i + 1)) (i + 1) := by
  obtain ⟨k, hk⟩ : ∃ k, n - i = k + 1 := ⟨n - (i + 1), by omega⟩
  have hk' : n - (i + 1) = k := by omega
  rw [hk, hk', search, load_eq hi]
  rfl

theorem search_eq_drop (p : α → Bool) (block : List α) (n i : ℕ) (h : i + n ≤ block.length) :
    search p block n i = .ok ((((block.drop i).take n).findIdx? p).map (· + i)) := by
  induction n generalizing i with
  | zero => simp [search]
  | succ n ih =>
    have hi : i < block.length := by omega
    rw [search, load_eq hi, List.drop_eq_getElem_cons hi, List.take_succ_cons, List.findIdx?_cons]
    by_cases hp : p block[i]
    · simp [hp, bind, Except.bind]
    · simp only [hp, bind, Except.bind, ih (i + 1) (by omega), Bool.false_eq_true, if_false,
        Option.map_map]
      congr 2
      funext j
      simp only [Function.comp_apply]
      omega

theorem search_eq (p : α → Bool) {block : List α} {n : ℕ} (h : n ≤ block.length) :
    search p block n 0 = .ok ((block.take n).findIdx? p) := by
  rw [search_eq_drop p block n 0 (by omega), List.drop_zero]
  simp

/-- One pass of the loop at the index `i` of `n`. -/
theorem modifyUpTo_of_lt (f : α → α) {block : List α} {n i : ℕ} (hn : i < n)
    (hi : i < block.length) :
    modifyUpTo f (n - i) i block = modifyUpTo f (n - (i + 1)) (i + 1) (block.modify i f) := by
  obtain ⟨k, hk⟩ : ∃ k, n - i = k + 1 := ⟨n - (i + 1), by omega⟩
  have hk' : n - (i + 1) = k := by omega
  rw [hk, hk', modifyUpTo, load_eq hi]
  simp only [bind, Except.bind, store_apply hi]

theorem modifyUpTo_eq_append (f : α → α) (n : ℕ) (done block : List α) (h : n ≤ block.length) :
    modifyUpTo f n done.length (done ++ block) =
      .ok (done ++ (block.take n).map f ++ block.drop n) := by
  induction n generalizing done block with
  | zero => simp [modifyUpTo]
  | succ n ih =>
    cases block with
    | nil => simp at h
    | cons a block =>
      have hi : done.length < (done ++ a :: block).length := by simp
      have hstep := ih (done ++ [f a]) block (by simpa using h)
      rw [modifyUpTo, load_eq hi]
      simp only [bind, Except.bind]
      rw [store_eq hi]
      simpa using hstep

theorem modifyUpTo_eq (f : α → α) {block : List α} {n : ℕ} (h : n ≤ block.length) :
    modifyUpTo f n 0 block = .ok ((block.take n).map f ++ block.drop n) := by
  simpa using modifyUpTo_eq_append f n [] block h

theorem copy_eq_drop (block : List α) (n i : ℕ) (h : i + n ≤ block.length) :
    copy block n i = .ok ((block.drop i).take n) := by
  induction n generalizing i with
  | zero => simp [copy]
  | succ n ih =>
    have hi : i < block.length := by omega
    rw [copy, load_eq hi]
    simp only [bind, Except.bind, ih (i + 1) (by omega)]
    rw [List.drop_eq_getElem_cons hi, List.take_succ_cons]

theorem copy_eq {block : List α} {n : ℕ} (h : n ≤ block.length) :
    copy block n 0 = .ok (block.take n) := by
  simpa using copy_eq_drop block n 0 (by omega)

@[simp] theorem length_realloc (fresh : ℕ → α) (block : List α) (n : ℕ) :
    (realloc fresh block n).length = n := by
  simp [realloc]

theorem getElem?_realloc (fresh : ℕ → α) (block : List α) {n i : ℕ} (h : i < n) :
    (realloc fresh block n)[i]? = some (block.getD i (fresh i)) := by
  simp [realloc, h]

/-- Growing a block keeps every cell it had. -/
theorem take_realloc (fresh : ℕ → α) {block : List α} {m n : ℕ} (hm : m ≤ block.length)
    (hn : m ≤ n) : (realloc fresh block n).take m = block.take m := by
  apply List.ext_getElem?
  intro i
  by_cases hi : i < m
  · rw [List.getElem?_take_of_lt hi, List.getElem?_take_of_lt hi,
      getElem?_realloc fresh block (by omega), List.getD_eq_getElem?_getD,
      List.getElem?_eq_getElem (by omega : i < block.length), Option.getD_some]
  · rw [List.getElem?_eq_none (by simp; omega), List.getElem?_eq_none (by simp; omega)]

end Block
