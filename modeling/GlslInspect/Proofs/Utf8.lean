/-
UTF-8, written and read.

A byte below 0x80 is a character of its own and no part of another one, so what stands on its two sides is decoded
apart (`decodeLossy_append_cons`). Every other byte stands for itself or begins a character from 0x80 on
(`exists_decodeLossy_cons`), so a character below 0x80 is shown of its own byte only (`decodeLossy_eq_cons_iff`,
`mem_of_mem_decodeLossy`). What was encoded is decoded to the same text (`decodeLossy_encode`).
-/
import Mathlib.Tactic.SplitIfs
import GlslInspect.Text.Utf8

namespace GlslInspect.Utf8

variable {b low high : UInt8} {bytes rest : List UInt8} {owed bits n : Nat} {lead : Lead} {c : Char} {t : Text}

/-! ## First bytes -/

/-- what a first byte promises, by its number -/
theorem lead?_eq (b : UInt8) : lead? b =
    if b.toNat ≤ 0x7f then some ⟨0, 0x80, 0xbf, b.toNat⟩
    else if b.toNat < 0xc2 then none
    else if b.toNat ≤ 0xdf then some ⟨1, 0x80, 0xbf, b.toNat - 0xc0⟩
    else if b.toNat = 0xe0 then some ⟨2, 0xa0, 0xbf, 0⟩
    else if b.toNat = 0xed then some ⟨2, 0x80, 0x9f, 0xd⟩
    else if b.toNat ≤ 0xef then some ⟨2, 0x80, 0xbf, b.toNat - 0xe0⟩
    else if b.toNat = 0xf0 then some ⟨3, 0x90, 0xbf, 0⟩
    else if b.toNat ≤ 0xf3 then some ⟨3, 0x80, 0xbf, b.toNat - 0xf0⟩
    else if b.toNat = 0xf4 then some ⟨3, 0x80, 0x8f, 4⟩
    else none := by
  simp only [lead?, UInt8.le_iff_toNat_le, UInt8.lt_iff_toNat_lt, ← UInt8.toNat_inj]
  rfl

/-- all that a first byte can promise: itself, or a character of several bytes, whose code point is from 0x80 on -/
theorem lead_cases (h : lead? b = some lead) :
    (b.toNat ≤ 0x7f ∧ lead = ⟨0, 0x80, 0xbf, b.toNat⟩) ∨
    (0x80 ≤ lead.low ∧ ∃ owed, lead.owed = owed + 1 ∧
      0x80 ≤ (lead.bits * 64 + (lead.low.toNat - 0x80)) * Nat.pow 64 owed) := by
  have hlow : (0x80 : UInt8).toNat - 0x80 = 0 := rfl
  have hzero : Nat.pow 64 0 = 1 := rfl
  have hsix : Nat.pow 64 1 = 64 := rfl
  have htwelve : Nat.pow 64 2 = 4096 := rfl
  rw [lead?_eq] at h
  split_ifs at h with hone <;> cases h
  · exact .inl ⟨hone, rfl⟩
  · refine .inr ⟨UInt8.le_refl _, 0, rfl, ?_⟩
    dsimp only
    rw [hlow, hzero]
    omega
  · exact .inr ⟨by decide, 1, rfl, by decide⟩
  · exact .inr ⟨by decide, 1, rfl, by decide⟩
  · refine .inr ⟨UInt8.le_refl _, 1, rfl, ?_⟩
    dsimp only
    rw [hlow, hsix]
    omega
  · exact .inr ⟨by decide, 2, rfl, by decide⟩
  · refine .inr ⟨UInt8.le_refl _, 2, rfl, ?_⟩
    dsimp only
    rw [hlow, htwelve]
    omega
  · exact .inr ⟨by decide, 2, rfl, by decide⟩

theorem low_of_lead (h : lead? b = some lead) : 0x80 ≤ lead.low := by
  rcases lead_cases h with ⟨-, rfl⟩ | ⟨hlow, -⟩
  · exact UInt8.le_refl _
  · exact hlow

theorem lead?_two (hlow : 0xc2 ≤ b.toNat) (hhigh : b.toNat ≤ 0xdf) :
    lead? b = some ⟨1, 0x80, 0xbf, b.toNat - 0xc0⟩ := by
  rw [lead?_eq, if_neg (by omega), if_neg (by omega), if_pos hhigh]

theorem lead?_three (hlow : 0xe0 ≤ b.toNat) (hhigh : b.toNat ≤ 0xef) :
    lead? b = some ⟨2, if b.toNat = 0xe0 then 0xa0 else 0x80, if b.toNat = 0xed then 0x9f else 0xbf,
      b.toNat - 0xe0⟩ := by
  rw [lead?_eq, if_neg (by omega), if_neg (by omega), if_neg (by omega)]
  split_ifs with hfirst hboth hsurrogate
  · omega
  · rw [hfirst]
  · rw [hsurrogate]
  · rfl

theorem lead?_four (hlow : 0xf0 ≤ b.toNat) (hhigh : b.toNat ≤ 0xf4) :
    lead? b = some ⟨3, if b.toNat = 0xf0 then 0x90 else 0x80, if b.toNat = 0xf4 then 0x8f else 0xbf,
      b.toNat - 0xf0⟩ := by
  rw [lead?_eq, if_neg (by omega), if_neg (by omega), if_neg (by omega), if_neg (by omega), if_neg (by omega),
    if_neg (by omega)]
  split_ifs with hfirst hboth hless hmore hlast
  · omega
  · rw [hfirst]
  · omega
  · rfl
  · rw [hlast]
  · omega

/-! ## One character after the other -/

theorem characters_nil : characters [] = [] := by rw [characters]

theorem characters_of_lead (h : lead? b = some lead) (rest : List UInt8) :
    characters (b :: rest) = (follow lead.owed lead.low lead.high lead.bits rest).1.map Char.ofNat ::
      characters (follow lead.owed lead.low lead.high lead.bits rest).2 := by
  rw [characters, h]

theorem characters_of_none (h : lead? b = none) (rest : List UInt8) :
    characters (b :: rest) = none :: characters rest := by
  rw [characters, h]

theorem characters_of_lt (h : b < 0x80) (rest : List UInt8) :
    characters (b :: rest) = some (Char.ofNat b.toNat) :: characters rest := by
  have hle : b ≤ 0x7f := by
    simp only [UInt8.le_iff_toNat_le, UInt8.lt_iff_toNat_lt] at h ⊢
    exact Nat.le_of_lt_succ h
  have hlead : lead? b = some ⟨0, 0x80, 0xbf, b.toNat⟩ := if_pos hle
  rw [characters_of_lead hlead]
  rfl

theorem follow_suffix (owed : Nat) (low high : UInt8) (bits : Nat) (bytes : List UInt8) :
    (follow owed low high bits bytes).2 <:+ bytes := by
  induction owed generalizing low high bits bytes with
  | zero => exact List.suffix_refl bytes
  | succ owed ih =>
    cases bytes with
    | nil => exact List.suffix_refl []
    | cons d bytes =>
      by_cases hd : low ≤ d ∧ d ≤ high
      · simp only [follow, if_pos hd]
        exact (ih ..).trans (List.suffix_cons d bytes)
      · simp only [follow, if_neg hd]
        exact List.suffix_refl _

/-- what is owed ends in front of a byte below 0x80 -/
theorem follow_append_cons (hlow : 0x80 ≤ low) (hb : b < 0x80) (bytes rest : List UInt8) :
    follow owed low high bits (bytes ++ b :: rest) =
      ((follow owed low high bits bytes).1, (follow owed low high bits bytes).2 ++ b :: rest) := by
  induction owed generalizing low high bits bytes with
  | zero => rfl
  | succ owed ih =>
    cases bytes with
    | nil =>
      have hout : ¬ (low ≤ b ∧ b ≤ high) := fun hin => UInt8.not_lt.2 (UInt8.le_trans hlow hin.1) hb
      exact if_neg hout
    | cons d bytes =>
      by_cases hd : low ≤ d ∧ d ≤ high
      · simp only [List.cons_append, follow, if_pos hd]
        exact ih (by decide) bytes
      · simp only [List.cons_append, follow, if_neg hd]

theorem characters_append_cons (hb : b < 0x80) (bytes rest : List UInt8) :
    characters (bytes ++ b :: rest) = characters bytes ++ some (Char.ofNat b.toNat) :: characters rest := by
  induction bytes using characters.induct with
  | case1 => rw [List.nil_append, characters_of_lt hb, characters_nil, List.nil_append]
  | case2 d bytes hlead ih =>
    rw [List.cons_append, characters_of_none hlead, characters_of_none hlead, ih, List.cons_append]
  | case3 d bytes lead hlead next ih =>
    rw [List.cons_append, characters_of_lead hlead, characters_of_lead hlead, follow_append_cons (low_of_lead hlead) hb]
    exact congrArg (_ :: ·) ih

theorem decodeLossy_append_cons (hb : b < 0x80) (bytes rest : List UInt8) :
    decodeLossy (bytes ++ b :: rest) = decodeLossy bytes ++ Char.ofNat b.toNat :: decodeLossy rest := by
  unfold decodeLossy
  rw [characters_append_cons hb, List.map_append, List.map_cons, Option.getD_some]

theorem decodeLossy_nil : decodeLossy [] = [] := by rw [decodeLossy, characters_nil, List.map_nil]

theorem decodeLossy_cons_of_lt (hb : b < 0x80) (rest : List UInt8) :
    decodeLossy (b :: rest) = Char.ofNat b.toNat :: decodeLossy rest := by
  rw [← List.nil_append (b :: rest), decodeLossy_append_cons hb, decodeLossy_nil, List.nil_append]

/-! ## Bytes from 0x80 on -/

theorem bits_le_of_follow (h : (follow owed low high bits bytes).1 = some n) : bits * Nat.pow 64 owed ≤ n := by
  induction owed generalizing low high bits bytes with
  | zero =>
    cases h
    exact Nat.le_of_eq (Nat.mul_one _)
  | succ owed ih =>
    cases bytes with
    | nil => cases h
    | cons d bytes =>
      by_cases hd : low ≤ d ∧ d ≤ high
      · simp only [follow, if_pos hd] at h
        calc bits * Nat.pow 64 (owed + 1) = bits * 64 * Nat.pow 64 owed := by rw [Nat.mul_assoc, Nat.mul_comm 64]; rfl
          _ ≤ (bits * 64 + (d.toNat - 0x80)) * Nat.pow 64 owed := Nat.mul_le_mul_right _ (Nat.le_add_right ..)
          _ ≤ n := ih h
      · simp only [follow, if_neg hd] at h
        cases h

theorem low_le_of_follow (h : (follow (owed + 1) low high bits bytes).1 = some n) :
    (bits * 64 + (low.toNat - 0x80)) * Nat.pow 64 owed ≤ n := by
  cases bytes with
  | nil => cases h
  | cons d bytes =>
    by_cases hd : low ≤ d ∧ d ≤ high
    · simp only [follow, if_pos hd] at h
      have hlow : low.toNat - 0x80 ≤ d.toNat - 0x80 := Nat.sub_le_sub_right (UInt8.le_iff_toNat_le.1 hd.1) _
      exact Nat.le_trans (Nat.mul_le_mul_right _ (Nat.add_le_add_left hlow _)) (bits_le_of_follow h)
    · simp only [follow, if_neg hd] at h
      cases h

theorem toNat_ofNat_of_le (h : 0x80 ≤ n) : (Char.ofNat n).toNat = 0 ∨ 0x80 ≤ (Char.ofNat n).toNat := by
  by_cases hvalid : n.isValidChar
  · have hn : (Char.ofNat n).toNat = n := by
      rw [Char.ofNat, dif_pos hvalid]
      rfl
    rw [hn]
    exact Or.inr h
  · have hzero : Char.ofNat n = '\x00' := dif_neg hvalid
    exact Or.inl (congrArg Char.toNat hzero)

/-- a byte from 0x80 on is shown, with some of the bytes behind it, as no character below 0x80 -/
theorem exists_decodeLossy_cons (hb : 0x80 ≤ b) (rest : List UInt8) :
    ∃ d more, decodeLossy (b :: rest) = d :: decodeLossy more ∧ more <:+ rest ∧
      (d.toNat = 0 ∨ 0x80 ≤ d.toNat) := by
  unfold decodeLossy
  cases hlead : lead? b with
  | none =>
    rw [characters_of_none hlead]
    exact ⟨_, rest, rfl, List.suffix_refl rest, Or.inr (by decide)⟩
  | some lead =>
    have hmany : ¬ b.toNat ≤ 0x7f := Nat.not_le.2 (UInt8.le_iff_toNat_le.1 hb)
    obtain ⟨-, owed, howed, hpromise⟩ := (lead_cases hlead).resolve_left fun hone => hmany hone.1
    rw [characters_of_lead hlead, howed]
    refine ⟨_, _, rfl, follow_suffix .., ?_⟩
    cases hn : (follow (owed + 1) lead.low lead.high lead.bits rest).1 with
    | none => exact Or.inr (by decide)
    | some n => exact toNat_ofNat_of_le (Nat.le_trans hpromise (low_le_of_follow hn))

theorem decodeLossy_eq_nil_iff : decodeLossy bytes = [] ↔ bytes = [] := by
  refine ⟨fun h => ?_, fun h => h ▸ decodeLossy_nil⟩
  cases bytes with
  | nil => rfl
  | cons b rest =>
    rcases UInt8.lt_or_le b 0x80 with hb | hb
    · rw [decodeLossy_cons_of_lt hb] at h
      cases h
    · obtain ⟨d, more, hmore, -, -⟩ := exists_decodeLossy_cons hb rest
      rw [hmore] at h
      cases h

/-! ## Characters below 0x80 -/

theorem toNat_ofNat_of_lt (hb : b < 0x80) : (Char.ofNat b.toNat).toNat = b.toNat := by
  have hlt : b.toNat < 0x80 := UInt8.lt_iff_toNat_lt.1 hb
  have hvalid : b.toNat.isValidChar := Or.inl (by omega)
  rw [Char.ofNat, dif_pos hvalid]
  rfl

/-- a character below 0x80 is shown of its own byte only -/
theorem decodeLossy_eq_cons_iff (hne : c.toNat ≠ 0) (hc : c.toNat < 0x80) :
    decodeLossy bytes = c :: t ↔ ∃ rest, bytes = UInt8.ofNat c.toNat :: rest ∧ decodeLossy rest = t := by
  have hbyte : (UInt8.ofNat c.toNat).toNat = c.toNat := UInt8.toNat_ofNat_of_lt' (Nat.lt_trans hc (by decide))
  have hlt : UInt8.ofNat c.toNat < 0x80 := UInt8.lt_iff_toNat_lt.2 (hbyte.symm ▸ hc)
  constructor
  · intro h
    cases bytes with
    | nil =>
      rw [decodeLossy_nil] at h
      cases h
    | cons b rest =>
      rcases UInt8.lt_or_le b 0x80 with hb | hb
      · rw [decodeLossy_cons_of_lt hb] at h
        obtain ⟨rfl, rfl⟩ := List.cons.inj h
        refine ⟨rest, ?_, rfl⟩
        rw [toNat_ofNat_of_lt hb, UInt8.ofNat_toNat]
      · obtain ⟨d, more, hmore, -, hd⟩ := exists_decodeLossy_cons hb rest
        rw [hmore] at h
        obtain ⟨rfl, -⟩ := List.cons.inj h
        omega
  · rintro ⟨rest, rfl, rfl⟩
    rw [decodeLossy_cons_of_lt hlt, hbyte, Char.ofNat_toNat]

theorem mem_of_mem_decodeLossy (hne : c.toNat ≠ 0) (hc : c.toNat < 0x80) (h : c ∈ decodeLossy bytes) :
    UInt8.ofNat c.toNat ∈ bytes := by
  -- an ill-formed part can be several bytes long, so the induction is on the length
  induction hlength : bytes.length using Nat.strongRecOn generalizing bytes with
  | ind length ih =>
    subst hlength
    cases bytes with
    | nil =>
      rw [decodeLossy_nil] at h
      cases h
    | cons b rest =>
      rcases UInt8.lt_or_le b 0x80 with hb | hb
      · rw [decodeLossy_cons_of_lt hb] at h
        rcases List.mem_cons.1 h with rfl | h
        · rw [toNat_ofNat_of_lt hb, UInt8.ofNat_toNat]
          exact List.mem_cons_self
        · exact List.mem_cons_of_mem b (ih rest.length (Nat.lt_succ_self _) h rfl)
      · obtain ⟨d, more, hmore, hsuffix, hd⟩ := exists_decodeLossy_cons hb rest
        rw [hmore] at h
        rcases List.mem_cons.1 h with rfl | h
        · omega
        · have hlength : more.length < (b :: rest).length := Nat.lt_succ_of_le hsuffix.length_le
          exact List.mem_cons_of_mem b (hsuffix.subset (ih more.length hlength h rfl))

/-! ## Bytes that are owed -/

/-- one of the bytes that are owed is read -/
theorem follow_cons (hlow : low.toNat ≤ b.toNat) (hhigh : b.toNat ≤ high.toNat) (rest : List UInt8) :
    follow (owed + 1) low high bits (b :: rest) = follow owed 0x80 0xbf (bits * 64 + (b.toNat - 0x80)) rest :=
  if_pos ⟨UInt8.le_iff_toNat_le.2 hlow, UInt8.le_iff_toNat_le.2 hhigh⟩

theorem follow_tail (hb : 0x80 ≤ b.toNat ∧ b.toNat ≤ 0xbf) (rest : List UInt8) :
    follow (owed + 1) 0x80 0xbf bits (b :: rest) = follow owed 0x80 0xbf (bits * 64 + (b.toNat - 0x80)) rest := by
  have hlow : (0x80 : UInt8).toNat ≤ b.toNat := hb.1
  have hhigh : b.toNat ≤ (0xbf : UInt8).toNat := hb.2
  exact follow_cons hlow hhigh rest

/-! ## Texts that were encoded -/

theorem encode_cons (c : Char) (t : Text) : encode (c :: t) = String.utf8EncodeChar c ++ encode t := rfl

variable {d e f : UInt8}

theorem characters_two (hb : 0xc2 ≤ b.toNat ∧ b.toNat ≤ 0xdf) (hd : 0x80 ≤ d.toNat ∧ d.toNat ≤ 0xbf) :
    characters (b :: d :: rest) =
      some (Char.ofNat ((b.toNat - 0xc0) * 64 + (d.toNat - 0x80))) :: characters rest := by
  rw [characters_of_lead (lead?_two hb.1 hb.2), follow_tail hd]
  rfl

theorem characters_three (hb : 0xe0 ≤ b.toNat ∧ b.toNat ≤ 0xef) (hd : 0x80 ≤ d.toNat ∧ d.toNat ≤ 0xbf)
    (hfirst : b.toNat = 0xe0 → 0xa0 ≤ d.toNat) (hsurrogate : b.toNat = 0xed → d.toNat ≤ 0x9f)
    (he : 0x80 ≤ e.toNat ∧ e.toNat ≤ 0xbf) :
    characters (b :: d :: e :: rest) =
      some (Char.ofNat (((b.toNat - 0xe0) * 64 + (d.toNat - 0x80)) * 64 + (e.toNat - 0x80))) :: characters rest := by
  have hlow : (if b.toNat = 0xe0 then (0xa0 : UInt8) else 0x80).toNat ≤ d.toNat := by
    split_ifs with h
    · exact hfirst h
    · exact hd.1
  have hhigh : d.toNat ≤ (if b.toNat = 0xed then (0x9f : UInt8) else 0xbf).toNat := by
    split_ifs with h
    · exact hsurrogate h
    · exact hd.2
  rw [characters_of_lead (lead?_three hb.1 hb.2), follow_cons hlow hhigh, follow_tail he]
  rfl

theorem characters_four (hb : 0xf0 ≤ b.toNat ∧ b.toNat ≤ 0xf4) (hd : 0x80 ≤ d.toNat ∧ d.toNat ≤ 0xbf)
    (hfirst : b.toNat = 0xf0 → 0x90 ≤ d.toNat) (hlast : b.toNat = 0xf4 → d.toNat ≤ 0x8f)
    (he : 0x80 ≤ e.toNat ∧ e.toNat ≤ 0xbf) (hf : 0x80 ≤ f.toNat ∧ f.toNat ≤ 0xbf) :
    characters (b :: d :: e :: f :: rest) =
      some (Char.ofNat ((((b.toNat - 0xf0) * 64 + (d.toNat - 0x80)) * 64 + (e.toNat - 0x80)) * 64 +
        (f.toNat - 0x80))) :: characters rest := by
  have hlow : (if b.toNat = 0xf0 then (0x90 : UInt8) else 0x80).toNat ≤ d.toNat := by
    split_ifs with h
    · exact hfirst h
    · exact hd.1
  have hhigh : d.toNat ≤ (if b.toNat = 0xf4 then (0x8f : UInt8) else 0xbf).toNat := by
    split_ifs with h
    · exact hlast h
    · exact hd.2
  rw [characters_of_lead (lead?_four hb.1 hb.2), follow_cons hlow hhigh, follow_tail he, follow_tail hf]
  rfl

theorem toNat_lt (c : Char) : c.toNat < 0xd800 ∨ 0xdfff < c.toNat ∧ c.toNat < 0x110000 := c.valid

theorem characters_encodeChar (c : Char) (rest : List UInt8) :
    characters (String.utf8EncodeChar c ++ rest) = some c :: characters rest := by
  have hbyte : ∀ {n : Nat}, n < 256 → (UInt8.ofNat n).toNat = n := UInt8.toNat_ofNat_of_lt'
  have hvalid := toNat_lt c
  have hc : Char.ofNat c.toNat = c := Char.ofNat_toNat c
  have hval : c.val.toNat = c.toNat := rfl
  unfold String.utf8EncodeChar
  dsimp only
  rw [hval]
  generalize c.toNat = n at hvalid hc
  have hlast : (UInt8.ofNat (n % 64 + 128)).toNat = n % 64 + 128 := hbyte (by omega)
  have hmid : (UInt8.ofNat (n / 64 % 64 + 128)).toNat = n / 64 % 64 + 128 := hbyte (by omega)
  have hnext : (UInt8.ofNat (n / 4096 % 64 + 128)).toNat = n / 4096 % 64 + 128 := hbyte (by omega)
  split_ifs with hone htwo hthree
  · have hb : (UInt8.ofNat n).toNat = n := hbyte (by omega)
    have hlt : UInt8.ofNat n < 0x80 := UInt8.lt_iff_toNat_lt.2 (by change (UInt8.ofNat n).toNat < 0x80; omega)
    rw [List.singleton_append, characters_of_lt hlt, hb, hc]
  · have hb : (UInt8.ofNat (n / 64 % 32 + 192)).toNat = n / 64 % 32 + 192 := hbyte (by omega)
    have hcode : (n / 64 % 32 + 192 - 0xc0) * 64 + (n % 64 + 128 - 0x80) = n := by omega
    simp only [List.cons_append, List.nil_append]
    rw [characters_two (by omega) (by omega), hb, hlast, hcode, hc]
  · have hb : (UInt8.ofNat (n / 4096 % 16 + 224)).toNat = n / 4096 % 16 + 224 := hbyte (by omega)
    have hcode : ((n / 4096 % 16 + 224 - 0xe0) * 64 + (n / 64 % 64 + 128 - 0x80)) * 64 + (n % 64 + 128 - 0x80) = n := by
      omega
    simp only [List.cons_append, List.nil_append]
    rw [characters_three (by omega) (by omega) (by omega) (by omega) (by omega), hb, hmid, hlast, hcode, hc]
  · have hb : (UInt8.ofNat (n / 262144 % 8 + 240)).toNat = n / 262144 % 8 + 240 := hbyte (by omega)
    have hcode : (((n / 262144 % 8 + 240 - 0xf0) * 64 + (n / 4096 % 64 + 128 - 0x80)) * 64 +
        (n / 64 % 64 + 128 - 0x80)) * 64 + (n % 64 + 128 - 0x80) = n := by omega
    simp only [List.cons_append, List.nil_append]
    rw [characters_four (by omega) (by omega) (by omega) (by omega) (by omega) (by omega), hb, hnext, hmid, hlast,
      hcode, hc]

theorem decodeLossy_encode (t : Text) : decodeLossy (encode t) = t := by
  unfold decodeLossy
  induction t with
  | nil => rw [encode, List.flatMap_nil, characters_nil, List.map_nil]
  | cons c t ih => rw [encode_cons, characters_encodeChar, List.map_cons, Option.getD_some, ih]

end GlslInspect.Utf8
