import ArrayExchange.Store

/-!
# Blocks over time

A store changes in two ways: a new block is added behind the others, or the contents of one block
are replaced by as many bytes.  This file says what either change leaves alone.

* `Store.Has` — the block of a handle exists.
* `Store.Keeps` — every block is still there, with as many bytes as before; it holds between any two
  stores of which the second comes later.
* `Store.Extends` — every block is still there, with the same bytes; it holds as long as nothing is
  overwritten.
-/

namespace ArrayExchange

namespace Store

variable {s t u : Store} {b c : BlockId}

/-- The block of a handle exists. -/
def Has (store : Store) (block : BlockId) : Prop := block.index < store.blocks.length

/-- Every block of `s` is a block of `t` with as many bytes. -/
structure Keeps (s t : Store) : Prop where
  has : ∀ b, s.Has b → t.Has b
  length : ∀ b, s.Has b → (t.bytes b).length = (s.bytes b).length

/-- Every block of `s` is a block of `t` with the same bytes. -/
structure Extends (s t : Store) : Prop where
  has : ∀ b, s.Has b → t.Has b
  bytes : ∀ b, s.Has b → t.bytes b = s.bytes b

theorem Keeps.refl (s : Store) : Keeps s s := ⟨fun _ h => h, fun _ _ => rfl⟩

theorem Keeps.trans (h₁ : Keeps s t) (h₂ : Keeps t u) : Keeps s u :=
  ⟨fun b h => h₂.has b (h₁.has b h),
    fun b h => (h₂.length b (h₁.has b h)).trans (h₁.length b h)⟩

theorem Extends.refl (s : Store) : Extends s s := ⟨fun _ h => h, fun _ _ => rfl⟩

theorem Extends.trans (h₁ : Extends s t) (h₂ : Extends t u) : Extends s u :=
  ⟨fun b h => h₂.has b (h₁.has b h),
    fun b h => (h₂.bytes b (h₁.has b h)).trans (h₁.bytes b h)⟩

theorem Extends.keeps (h : Extends s t) : Keeps s t :=
  ⟨h.has, fun b hb => by rw [h.bytes b hb]⟩

/-! ### A new block -/

/-- The next handle refers to no block yet. -/
theorem not_has_next (s : Store) : ¬ s.Has s.next := Nat.lt_irrefl _

theorem Has.ne_next (h : s.Has b) : b ≠ s.next := by
  intro e
  exact not_has_next s (e ▸ h)

theorem has_alloc_next (s : Store) (new : Bytes) : (s.alloc new).2.Has s.next := by
  simp [Has, alloc, next]

theorem extends_alloc (s : Store) (new : Bytes) : Extends s (s.alloc new).2 where
  has b h := by
    have hlen : (s.alloc new).2.blocks.length = s.blocks.length + 1 := by simp [alloc]
    show b.index < _
    rw [hlen]
    exact Nat.lt_succ_of_lt h
  bytes _ h := bytes_alloc_of_lt new h

/-! ### A replaced block -/

@[simp] theorem has_replace : (s.replace b new).Has c ↔ s.Has c := by
  simp [Has, replace]

/-- **Only one block changes** when a block is replaced. -/
theorem bytes_replace (new : Bytes) (h : s.Has b) :
    (s.replace b new).bytes c = if c = b then new else s.bytes c := by
  split
  · next e =>
      subst e
      exact bytes_replace_self new h
  · next e => exact bytes_replace_of_ne new e

theorem keeps_replace {new : Bytes} (h : s.Has b) (hlen : new.length = (s.bytes b).length) :
    Keeps s (s.replace b new) where
  has c hc := has_replace.mpr hc
  length c _ := by
    rw [bytes_replace new h]
    split
    · next e => rw [hlen, e]
    · rfl

/-- A patch that fits is applied. -/
theorem patch_of_le {start : Nat} {new old : Bytes} (h : start + new.length ≤ old.length) :
    patch start new old = old.take start ++ new ++ old.drop (start + new.length) := if_pos h

end Store

end ArrayExchange
