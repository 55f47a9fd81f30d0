/-
Texts as numbers.

Each text has a number of its own, its code points being the digits (`Text.ordinal`). A text has no more characters than
bytes, so there are only so many texts of so many bytes (`Text.length_le_of_byteLength`).
-/
import GlslInspect.Text.Basic

namespace GlslInspect

namespace Text

/-- one more than there are code points -/
def base : Nat := 0x110001

/-- a number of its own for each text -/
def ordinal : Text → Nat
  | [] => 0
  | c :: t => c.toNat + 1 + base * ordinal t

theorem toNat_lt_base (c : Char) : c.toNat + 1 < base := by
  have := c.valid
  simp only [UInt32.isValidChar, Nat.isValidChar] at this
  unfold base Char.toNat
  omega

theorem ordinal_inj {t u : Text} (h : ordinal t = ordinal u) : t = u := by
  induction t generalizing u with
  | nil =>
    cases u with
    | nil => rfl
    | cons d u =>
      simp only [ordinal] at h
      omega
  | cons c t ih =>
    cases u with
    | nil =>
      simp only [ordinal] at h
      omega
    | cons d u =>
      simp only [ordinal] at h
      have hc := toNat_lt_base c
      have hd := toNat_lt_base d
      have hmod := congrArg (· % base) h
      have hdiv := congrArg (· / base) h
      simp only [Nat.add_mul_mod_self_left, Nat.mod_eq_of_lt hc, Nat.mod_eq_of_lt hd] at hmod
      simp only [Nat.add_mul_div_left _ _ (show 0 < base by decide), Nat.div_eq_of_lt hc, Nat.div_eq_of_lt hd,
        Nat.zero_add] at hdiv
      rw [ih hdiv, Char.toNat_inj.1 (Nat.succ.inj hmod)]

theorem ordinal_lt {t : Text} {n : Nat} (h : t.length ≤ n) : ordinal t < Nat.pow base n := by
  induction t generalizing n with
  | nil => exact Nat.pow_pos (by decide)
  | cons c t ih =>
    cases n with
    | zero => simp at h
    | succ n =>
      have hrest : ordinal t < Nat.pow base n := ih (Nat.le_of_succ_le_succ h)
      have hc := toNat_lt_base c
      calc ordinal (c :: t) < base + base * ordinal t := Nat.add_lt_add_right hc _
        _ = base * (ordinal t + 1) := by rw [Nat.mul_succ, Nat.add_comm]
        _ ≤ base * Nat.pow base n := Nat.mul_le_mul_left _ hrest
        _ = Nat.pow base (n + 1) := Nat.mul_comm _ _

theorem foldl_utf8Size (t : Text) (n : Nat) :
    t.foldl (fun n c => n + c.utf8Size) n = n + t.foldl (fun n c => n + c.utf8Size) 0 := by
  induction t generalizing n with
  | nil => rfl
  | cons c t ih =>
    rw [List.foldl_cons, List.foldl_cons, ih, ih (0 + c.utf8Size)]
    omega

theorem byteLength_cons (c : Char) (t : Text) : byteLength (c :: t) = c.utf8Size + byteLength t := by
  unfold byteLength
  rw [List.foldl_cons, foldl_utf8Size, Nat.zero_add]

theorem length_le_byteLength (t : Text) : t.length ≤ byteLength t := by
  induction t with
  | nil => exact Nat.le_refl _
  | cons c t ih =>
    have := c.utf8Size_pos
    rw [byteLength_cons, List.length_cons]
    omega

theorem length_le_of_byteLength {texts : List Text} {n : Nat} (distinct : texts.Nodup)
    (short : ∀ t ∈ texts, byteLength t ≤ n) : texts.length ≤ Nat.pow base n := by
  have numbered : (texts.map ordinal).Nodup :=
    List.Pairwise.map _ (fun _ _ different same => different (ordinal_inj same)) distinct
  have listed : texts.map ordinal ⊆ List.range (Nat.pow base n) := by
    intro m h
    obtain ⟨t, ht, rfl⟩ := List.mem_map.1 h
    exact List.mem_range.2 (ordinal_lt (Nat.le_trans (length_le_byteLength t) (short t ht)))
  simpa using numbered.length_le_of_subset listed

end Text

end GlslInspect
