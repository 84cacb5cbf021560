import RecordingIndex.Text.Utf8

/-!
# Proofs — Text — UTF-8 there and back

The bytes of a text are read back as the text (`decode?_encode`), and bytes without an ill-formed
stretch are the bytes of the text that is read off them (`encode_of_decode?`).  Both go scalar by
scalar: a scalar is one byte, or a first byte that opens a sequence and the bytes that close it.
Hence the bytes of a text stay text when they are cut at a scalar of one byte
(`isText_append_cons_iff`).
-/

namespace RecordingIndex.Utf8

variable {r : Bytes}

theorem toNat_ofNat {n : Nat} (h : n < 256) : (UInt8.ofNat n).toNat = n := by
  rw [UInt8.toNat_ofNat', Nat.mod_eq_of_lt h]

theorem ofNat_eq {b : UInt8} {n : Nat} (h : n = b.toNat) : UInt8.ofNat n = b := by
  rw [h, UInt8.ofNat_toNat]

/-! ### First bytes -/

/-- The role of a byte at the start of a sequence, by its value. -/
theorem lead_eq (b : UInt8) :
    lead b =
      if b.toNat < 0x80 then .scalar (Char.ofNat b.toNat)
      else if b.toNat < 0xC2 then .illFormed
      else if b.toNat < 0xE0 then .opens ⟨1, 0x80, 0xBF, b.toNat - 0xC0⟩
      else if b.toNat = 0xE0 then .opens ⟨2, 0xA0, 0xBF, 0⟩
      else if b.toNat = 0xED then .opens ⟨2, 0x80, 0x9F, 0xD⟩
      else if b.toNat < 0xF0 then .opens ⟨2, 0x80, 0xBF, b.toNat - 0xE0⟩
      else if b.toNat = 0xF0 then .opens ⟨3, 0x90, 0xBF, 0⟩
      else if b.toNat < 0xF4 then .opens ⟨3, 0x80, 0xBF, b.toNat - 0xF0⟩
      else if b.toNat = 0xF4 then .opens ⟨3, 0x80, 0x8F, 4⟩
      else .illFormed := by
  simp only [lead, UInt8.lt_iff_toNat_lt, ← UInt8.toNat_inj]
  rfl

/-- A byte that does not start a sequence. -/
def IsTail (b : UInt8) : Prop := 0x80 ≤ b.toNat ∧ b.toNat ≤ 0xBF

/-- A byte within the bounds of a sequence that has begun. -/
def Pending.Takes (p : Pending) (b : UInt8) : Prop :=
  p.low.toNat ≤ b.toNat ∧ b.toNat ≤ p.high.toNat

theorem lead_one {b : UInt8} (h : b.toNat < 0x80) : lead b = .scalar (Char.ofNat b.toNat) := by
  rw [lead_eq, if_pos h]

theorem lead_two {b : UInt8} (h₁ : 0xC2 ≤ b.toNat) (h₂ : b.toNat < 0xE0) :
    ∃ p, lead b = .opens p ∧ p.needed = 1 ∧ p.bits = b.toNat - 0xC0 ∧
      ∀ d, p.Takes d ↔ IsTail d := by
  refine ⟨⟨1, 0x80, 0xBF, b.toNat - 0xC0⟩, ?_, rfl, rfl, fun d => Iff.rfl⟩
  rw [lead_eq, if_neg (by omega), if_neg (by omega), if_pos h₂]

theorem lead_three {b : UInt8} (h₁ : 0xE0 ≤ b.toNat) (h₂ : b.toNat < 0xF0) :
    ∃ p, lead b = .opens p ∧ p.needed = 2 ∧ p.bits = b.toNat - 0xE0 ∧ ∀ d, p.Takes d ↔
      IsTail d ∧ (b.toNat = 0xE0 → 0xA0 ≤ d.toNat) ∧ (b.toNat = 0xED → d.toNat ≤ 0x9F) := by
  rw [lead_eq, if_neg (by omega), if_neg (by omega), if_neg (by omega)]
  split
  · refine ⟨_, rfl, rfl, show 0 = _ by omega, ?_⟩
    intro d
    show 0xA0 ≤ d.toNat ∧ d.toNat ≤ 0xBF ↔ _
    rw [IsTail]
    omega
  split
  · refine ⟨_, rfl, rfl, show 0xD = _ by omega, ?_⟩
    intro d
    show 0x80 ≤ d.toNat ∧ d.toNat ≤ 0x9F ↔ _
    rw [IsTail]
    omega
  · refine ⟨_, rfl, rfl, rfl, ?_⟩
    intro d
    show IsTail d ↔ _
    rw [IsTail]
    omega

theorem lead_four {b : UInt8} (h₁ : 0xF0 ≤ b.toNat) (h₂ : b.toNat ≤ 0xF4) :
    ∃ p, lead b = .opens p ∧ p.needed = 3 ∧ p.bits = b.toNat - 0xF0 ∧ ∀ d, p.Takes d ↔
      IsTail d ∧ (b.toNat = 0xF0 → 0x90 ≤ d.toNat) ∧ (b.toNat = 0xF4 → d.toNat ≤ 0x8F) := by
  rw [lead_eq, if_neg (by omega), if_neg (by omega), if_neg (by omega), if_neg (by omega),
    if_neg (by omega), if_neg (by omega)]
  split
  · refine ⟨_, rfl, rfl, show 0 = _ by omega, ?_⟩
    intro d
    show 0x90 ≤ d.toNat ∧ d.toNat ≤ 0xBF ↔ _
    rw [IsTail]
    omega
  split
  · refine ⟨_, rfl, rfl, rfl, ?_⟩
    intro d
    show IsTail d ↔ _
    rw [IsTail]
    omega
  · rw [if_pos (by omega)]
    refine ⟨_, rfl, rfl, show 4 = _ by omega, ?_⟩
    intro d
    show 0x80 ≤ d.toNat ∧ d.toNat ≤ 0x8F ↔ _
    rw [IsTail]
    omega

theorem lead_illFormed {b : UInt8} (h : (0x80 ≤ b.toNat ∧ b.toNat < 0xC2) ∨ 0xF4 < b.toNat) :
    lead b = .illFormed := by
  rw [lead_eq, if_neg (by omega)]
  rcases h with h | h
  · rw [if_pos (by omega)]
  · rw [if_neg (by omega), if_neg (by omega), if_neg (by omega), if_neg (by omega),
      if_neg (by omega), if_neg (by omega), if_neg (by omega), if_neg (by omega)]

/-! ### Sequences -/

/-- The value of a sequence with one more byte. -/
def extend (bits : Nat) (b : UInt8) : Nat := bits * 64 + (b.toNat - 0x80)

/-- A sequence whose further bytes have no bounds of their own. -/
def plainPending (needed bits : Nat) : Pending := ⟨needed, 0x80, 0xBF, bits⟩

theorem IsTail.takes {b : UInt8} (h : IsTail b) (needed bits : Nat) :
    (plainPending needed bits).Takes b := h

theorem piecesFrom_opens {b : UInt8} {p : Pending} (h : lead b = .opens p) :
    piecesFrom none (b :: r) = piecesFrom (some p) r := by
  rw [piecesFrom, h]

theorem piecesFrom_last {p : Pending} {b : UInt8} (h : p.Takes b) (hn : p.needed = 1) :
    piecesFrom (some p) (b :: r) = some (Char.ofNat (extend p.bits b)) :: piecesFrom none r := by
  have hb : p.low ≤ b ∧ b ≤ p.high := h
  rw [piecesFrom, if_pos hb, if_pos (Nat.le_of_eq hn)]
  rfl

theorem piecesFrom_more {p : Pending} {b : UInt8} (h : p.Takes b) (hn : 1 < p.needed) :
    piecesFrom (some p) (b :: r) =
      piecesFrom (some (plainPending (p.needed - 1) (extend p.bits b))) r := by
  have hb : p.low ≤ b ∧ b ≤ p.high := h
  rw [piecesFrom, if_pos hb, if_neg (Nat.not_le.mpr hn)]
  rfl

variable {b₁ b₂ b₃ b₄ : UInt8} {v : Nat}

/-- Two bytes are read as the scalar of their bits. -/
theorem piecesFrom_two (h₁ : b₁.toNat = v / 64 + 0xC0) (h₂ : b₂.toNat = v % 64 + 0x80)
    (hv : 0x80 ≤ v ∧ v < 0x800) :
    piecesFrom none (b₁ :: b₂ :: r) = some (Char.ofNat v) :: piecesFrom none r := by
  obtain ⟨p, hlead, hneeded, hbits, htakes⟩ := lead_two (b := b₁) (by omega) (by omega)
  have hlast : p.Takes b₂ := (htakes b₂).mpr (by rw [IsTail]; omega)
  have hvalue : extend p.bits b₂ = v := by
    show p.bits * 64 + (b₂.toNat - 0x80) = v
    omega
  rw [piecesFrom_opens hlead, piecesFrom_last hlast hneeded, hvalue]

/-- Three bytes are read as the scalar of their bits, unless it is a surrogate. -/
theorem piecesFrom_three (h₁ : b₁.toNat = v / 4096 + 0xE0) (h₂ : b₂.toNat = v / 64 % 64 + 0x80)
    (h₃ : b₃.toNat = v % 64 + 0x80) (hv : 0x800 ≤ v ∧ v < 0x10000)
    (hvalid : v < 0xD800 ∨ 0xDFFF < v) :
    piecesFrom none (b₁ :: b₂ :: b₃ :: r) = some (Char.ofNat v) :: piecesFrom none r := by
  obtain ⟨p, hlead, hneeded, hbits, htakes⟩ := lead_three (b := b₁) (by omega) (by omega)
  have hsecond : p.Takes b₂ := (htakes b₂).mpr (by rw [IsTail]; omega)
  have hlast : (plainPending (p.needed - 1) (extend p.bits b₂)).Takes b₃ :=
    IsTail.takes (by rw [IsTail]; omega) _ _
  have hvalue : extend (plainPending (p.needed - 1) (extend p.bits b₂)).bits b₃ = v := by
    show (p.bits * 64 + (b₂.toNat - 0x80)) * 64 + (b₃.toNat - 0x80) = v
    omega
  rw [piecesFrom_opens hlead, piecesFrom_more hsecond (by omega),
    piecesFrom_last hlast (by simp [plainPending, hneeded]), hvalue]

/-- Four bytes are read as the scalar of their bits, up to the last scalar. -/
theorem piecesFrom_four (h₁ : b₁.toNat = v / 262144 + 0xF0)
    (h₂ : b₂.toNat = v / 4096 % 64 + 0x80) (h₃ : b₃.toNat = v / 64 % 64 + 0x80)
    (h₄ : b₄.toNat = v % 64 + 0x80) (hv : 0x10000 ≤ v ∧ v < 0x110000) :
    piecesFrom none (b₁ :: b₂ :: b₃ :: b₄ :: r) = some (Char.ofNat v) :: piecesFrom none r := by
  obtain ⟨p, hlead, hneeded, hbits, htakes⟩ := lead_four (b := b₁) (by omega) (by omega)
  have hsecond : p.Takes b₂ := (htakes b₂).mpr (by rw [IsTail]; omega)
  let q := plainPending (p.needed - 1) (extend p.bits b₂)
  have hthird : q.Takes b₃ := IsTail.takes (by rw [IsTail]; omega) _ _
  have hlast : (plainPending (q.needed - 1) (extend q.bits b₃)).Takes b₄ :=
    IsTail.takes (by rw [IsTail]; omega) _ _
  have hvalue : extend (plainPending (q.needed - 1) (extend q.bits b₃)).bits b₄ = v := by
    show ((p.bits * 64 + (b₂.toNat - 0x80)) * 64 + (b₃.toNat - 0x80)) * 64 + (b₄.toNat - 0x80) = v
    omega
  rw [piecesFrom_opens hlead, piecesFrom_more hsecond (by omega),
    piecesFrom_more hthird (by simp [q, plainPending, hneeded]),
    piecesFrom_last hlast (by simp [q, plainPending, hneeded]), hvalue]

/-- **The bytes of a scalar** are read as the scalar, whatever follows. -/
theorem piecesFrom_utf8EncodeChar (c : Char) (r : Bytes) :
    piecesFrom none (String.utf8EncodeChar c ++ r) = some c :: piecesFrom none r := by
  have hvalid : c.val.toNat < 0xD800 ∨ (0xDFFF < c.val.toNat ∧ c.val.toNat < 0x110000) := c.valid
  have hc : Char.ofNat c.val.toNat = c := Char.ofNat_toNat c
  rw [String.utf8EncodeChar]
  generalize c.val.toNat = v at hvalid hc
  split
  · next h =>
      have hv : (UInt8.ofNat v).toNat = v := toNat_ofNat (by omega)
      rw [List.cons_append, List.nil_append, piecesFrom, lead_one (by omega), hv, hc]
  -- In the other cases the scalar is read as its number.
  rw [← hc]
  split
  · exact piecesFrom_two (toNat_ofNat (by omega) |>.trans (by omega)) (toNat_ofNat (by omega))
      (by omega)
  split
  · exact piecesFrom_three (toNat_ofNat (by omega) |>.trans (by omega)) (toNat_ofNat (by omega))
      (toNat_ofNat (by omega)) (by omega) (by omega)
  · exact piecesFrom_four (toNat_ofNat (by omega) |>.trans (by omega)) (toNat_ofNat (by omega))
      (toNat_ofNat (by omega)) (toNat_ofNat (by omega)) (by omega)

/-- The pieces of the bytes of a text are its scalars. -/
theorem pieces_encode : ∀ s : List Char, pieces (encode s) = s.map some
  | []     => rfl
  | c :: s => by
      have hs : piecesFrom none (encode s) = s.map some := pieces_encode s
      rw [pieces, encode, List.flatMap_cons, piecesFrom_utf8EncodeChar, List.map_cons, ← hs]
      rfl

theorem mapM_map_some (s : List Char) : (s.map some).mapM id = some s := by
  induction s with
  | nil => rfl
  | cons c s ih => simp [ih]

/-- **The bytes of a text** are read back as the text. -/
theorem decode?_encode (s : List Char) : decode? (encode s) = some s := by
  rw [decode?, pieces_encode, mapM_map_some]

theorem toString?_ofString (s : String) : toString? (ofString s) = some s := by
  rw [toString?, ofString, decode?_encode, Option.map_some, String.ofList_toList]

theorem ofString_inj {s t : String} (h : ofString s = ofString t) : s = t := by
  have hsome : some s = some t := by rw [← toString?_ofString s, h, toString?_ofString t]
  exact Option.some.inj hsome

/-! ### Bytes without ill-formed stretches -/

theorem toNat_val_ofNat (h : v < 0xD800 ∨ (0xDFFF < v ∧ v < 0x110000)) :
    (Char.ofNat v).val.toNat = v := by
  have hv : v.isValidChar := h
  rw [Char.ofNat, dif_pos hv]
  rfl

theorem utf8EncodeChar_one (h₁ : b₁.toNat = v) (hv : v < 0x80) :
    String.utf8EncodeChar (Char.ofNat v) = [b₁] := by
  rw [String.utf8EncodeChar, toNat_val_ofNat (by omega), if_pos (by omega), ofNat_eq h₁.symm]

theorem utf8EncodeChar_two (h₁ : b₁.toNat = v / 64 + 0xC0) (h₂ : b₂.toNat = v % 64 + 0x80)
    (hv : 0x80 ≤ v ∧ v < 0x800) : String.utf8EncodeChar (Char.ofNat v) = [b₁, b₂] := by
  rw [String.utf8EncodeChar, toNat_val_ofNat (by omega), if_neg (by omega), if_pos (by omega),
    ofNat_eq (b := b₁) (by omega), ofNat_eq (b := b₂) (by omega)]

theorem utf8EncodeChar_three (h₁ : b₁.toNat = v / 4096 + 0xE0)
    (h₂ : b₂.toNat = v / 64 % 64 + 0x80) (h₃ : b₃.toNat = v % 64 + 0x80)
    (hv : 0x800 ≤ v ∧ v < 0x10000) (hvalid : v < 0xD800 ∨ 0xDFFF < v) :
    String.utf8EncodeChar (Char.ofNat v) = [b₁, b₂, b₃] := by
  rw [String.utf8EncodeChar, toNat_val_ofNat (by omega), if_neg (by omega), if_neg (by omega),
    if_pos (by omega), ofNat_eq (b := b₁) (by omega), ofNat_eq (b := b₂) (by omega),
    ofNat_eq (b := b₃) (by omega)]

theorem utf8EncodeChar_four (h₁ : b₁.toNat = v / 262144 + 0xF0)
    (h₂ : b₂.toNat = v / 4096 % 64 + 0x80) (h₃ : b₃.toNat = v / 64 % 64 + 0x80)
    (h₄ : b₄.toNat = v % 64 + 0x80) (hv : 0x10000 ≤ v ∧ v < 0x110000) :
    String.utf8EncodeChar (Char.ofNat v) = [b₁, b₂, b₃, b₄] := by
  rw [String.utf8EncodeChar, toNat_val_ofNat (by omega), if_neg (by omega), if_neg (by omega),
    if_neg (by omega), ofNat_eq (b := b₁) (by omega), ofNat_eq (b := b₂) (by omega),
    ofNat_eq (b := b₃) (by omega), ofNat_eq (b := b₄) (by omega)]

/-- In a sequence that is not ill-formed, a byte within the bounds follows. -/
theorem exists_takes {p : Pending} {s : List Char} (h : piecesFrom (some p) r = s.map some) :
    ∃ b r', r = b :: r' ∧ p.Takes b := by
  have hne (xs : List (Option Char)) : none :: xs ≠ s.map some := by
    cases s <;> simp
  cases r with
  | nil => exact absurd h (hne [])
  | cons b r =>
      by_cases hb : p.low ≤ b ∧ b ≤ p.high
      · exact ⟨b, r, rfl, hb⟩
      · rw [piecesFrom, if_neg hb] at h
        cases hlead : lead b <;> rw [hlead] at h <;> exact absurd h (hne _)

/-- The first scalar of bytes that are not ill-formed is written as their first bytes. -/
theorem exists_utf8EncodeChar {b : UInt8} {s : List Char}
    (h : piecesFrom none (b :: r) = s.map some) :
    ∃ c s' r', s = c :: s' ∧ b :: r = String.utf8EncodeChar c ++ r' ∧
      piecesFrom none r' = s'.map some := by
  -- Each case below names the bytes `bs` of the first scalar.
  have hcons (c : Char) (bs r' : Bytes) (hbytes : b :: r = bs ++ r')
      (hc : String.utf8EncodeChar c = bs)
      (hread : piecesFrom none (b :: r) = some c :: piecesFrom none r') :
      ∃ c s' r', s = c :: s' ∧ b :: r = String.utf8EncodeChar c ++ r' ∧
        piecesFrom none r' = s'.map some := by
    rw [hread] at h
    cases s with
    | nil => cases h
    | cons d s =>
        rw [List.map_cons, List.cons.injEq] at h
        obtain rfl := Option.some.inj h.1
        exact ⟨c, s, r', rfl, by rw [hc, hbytes], h.2⟩
  have hnone (xs : List (Option Char)) : none :: xs ≠ s.map some := by
    cases s <;> simp
  by_cases hone : b.toNat < 0x80
  · refine hcons _ [b] r rfl (utf8EncodeChar_one rfl hone) ?_
    rw [piecesFrom, lead_one hone]
  -- Neither a byte from within a sequence nor one beyond the last scalar begins a sequence.
  by_cases hill : b.toNat < 0xC2 ∨ 0xF4 < b.toNat
  · rw [piecesFrom, lead_illFormed (by omega)] at h
    exact absurd h (hnone _)
  by_cases htwo : b.toNat < 0xE0
  · obtain ⟨p, hlead, -, -, htakes⟩ := lead_two (b := b) (by omega) htwo
    obtain ⟨b₂, r, rfl, h₂⟩ := exists_takes ((piecesFrom_opens hlead).symm.trans h)
    have htail := (htakes b₂).mp h₂
    rw [IsTail] at htail
    have hv : 0x80 ≤ (b.toNat - 0xC0) * 64 + (b₂.toNat - 0x80) ∧
        (b.toNat - 0xC0) * 64 + (b₂.toNat - 0x80) < 0x800 := by omega
    exact hcons _ [b, b₂] r rfl (utf8EncodeChar_two (by omega) (by omega) hv)
      (piecesFrom_two (by omega) (by omega) hv)
  by_cases hthree : b.toNat < 0xF0
  · obtain ⟨p, hlead, hneeded, -, htakes⟩ := lead_three (b := b) (by omega) hthree
    have hp := (piecesFrom_opens hlead).symm.trans h
    obtain ⟨b₂, r, rfl, h₂⟩ := exists_takes hp
    rw [piecesFrom_more h₂ (by omega)] at hp
    obtain ⟨b₃, r, rfl, h₃⟩ := exists_takes hp
    have htail₂ := (htakes b₂).mp h₂
    have htail₃ : IsTail b₃ := h₃
    rw [IsTail] at htail₂ htail₃
    -- The bounds on the second byte exclude overlong forms and surrogates.
    let v := ((b.toNat - 0xE0) * 64 + (b₂.toNat - 0x80)) * 64 + (b₃.toNat - 0x80)
    have hv : v = ((b.toNat - 0xE0) * 64 + (b₂.toNat - 0x80)) * 64 + (b₃.toNat - 0x80) := rfl
    have hrange : 0x800 ≤ v ∧ v < 0x10000 := by omega
    have hvalid : v < 0xD800 ∨ 0xDFFF < v := by omega
    exact hcons _ [b, b₂, b₃] r rfl
      (utf8EncodeChar_three (by omega) (by omega) (by omega) hrange hvalid)
      (piecesFrom_three (by omega) (by omega) (by omega) hrange hvalid)
  · obtain ⟨p, hlead, hneeded, -, htakes⟩ := lead_four (b := b) (by omega) (by omega)
    have hp := (piecesFrom_opens hlead).symm.trans h
    obtain ⟨b₂, r, rfl, h₂⟩ := exists_takes hp
    rw [piecesFrom_more h₂ (by omega)] at hp
    obtain ⟨b₃, r, rfl, h₃⟩ := exists_takes hp
    rw [piecesFrom_more h₃ (by simp [plainPending, hneeded])] at hp
    obtain ⟨b₄, r, rfl, h₄⟩ := exists_takes hp
    have htail₂ := (htakes b₂).mp h₂
    have htail₃ : IsTail b₃ := h₃
    have htail₄ : IsTail b₄ := h₄
    rw [IsTail] at htail₂ htail₃ htail₄
    -- They exclude overlong forms and values above the last scalar.
    let v := (((b.toNat - 0xF0) * 64 + (b₂.toNat - 0x80)) * 64 + (b₃.toNat - 0x80)) * 64 +
      (b₄.toNat - 0x80)
    have hv : v = (((b.toNat - 0xF0) * 64 + (b₂.toNat - 0x80)) * 64 + (b₃.toNat - 0x80)) * 64 +
      (b₄.toNat - 0x80) := rfl
    have hrange : 0x10000 ≤ v ∧ v < 0x110000 := by omega
    exact hcons _ [b, b₂, b₃, b₄] r rfl
      (utf8EncodeChar_four (by omega) (by omega) (by omega) (by omega) hrange)
      (piecesFrom_four (by omega) (by omega) (by omega) (by omega) hrange)

theorem encode_of_piecesFrom {s : List Char} (h : piecesFrom none r = s.map some) :
    encode s = r := by
  induction s generalizing r with
  | nil =>
      cases r with
      | nil => rfl
      | cons b r =>
          obtain ⟨c, s, r', hs, -⟩ := exists_utf8EncodeChar (s := []) h
          cases hs
  | cons c s ih =>
      cases r with
      | nil => cases h
      | cons b r =>
          obtain ⟨d, s', r', hs, hr, hread⟩ := exists_utf8EncodeChar h
          obtain ⟨rfl, rfl⟩ := List.cons.inj hs
          rw [hr, encode, List.flatMap_cons]
          exact congrArg _ (ih hread)

theorem eq_map_some_of_mapM : ∀ {xs : List (Option Char)} {s : List Char},
    xs.mapM id = some s → xs = s.map some
  | [],      s, h => by
      cases h
      rfl
  | x :: xs, s, h => by
      rw [List.mapM_cons] at h
      obtain ⟨c, hc, h⟩ := Option.bind_eq_some_iff.mp h
      obtain ⟨s', hs, h⟩ := Option.bind_eq_some_iff.mp h
      cases h
      rw [eq_map_some_of_mapM hs, List.map_cons]
      exact congrArg (· :: _) hc

/-- **Bytes that are not ill-formed** are the bytes of their text. -/
theorem encode_of_decode? {b : Bytes} {s : List Char} (h : decode? b = some s) : encode s = b :=
  encode_of_piecesFrom (eq_map_some_of_mapM h)

/-- The text of bytes that are not ill-formed loses nothing. -/
theorem ofString_toStringLossy {b : Bytes} (h : (decode? b).isSome) :
    ofString (toStringLossy b) = b := by
  obtain ⟨s, hs⟩ := Option.isSome_iff_exists.mp h
  have hlossy : decodeLossy b = s := by
    rw [decodeLossy, eq_map_some_of_mapM hs, List.map_map]
    exact List.map_id s
  rw [ofString, toStringLossy, hlossy, String.toList_ofList, encode_of_decode? hs]

/-! ### Boundaries -/

/-- A sequence that has begun goes on with bytes that begin none. -/
theorem isTail_of_lead {b d : UInt8} {p : Pending} (h : lead b = .opens p) (hd : p.Takes d) :
    IsTail d := by
  by_cases hone : b.toNat < 0x80
  · rw [lead_one hone] at h
    cases h
  by_cases hill : b.toNat < 0xC2 ∨ 0xF4 < b.toNat
  · rw [lead_illFormed (by omega)] at h
    cases h
  by_cases htwo : b.toNat < 0xE0
  · obtain ⟨q, hq, -, -, htakes⟩ := lead_two (b := b) (by omega) htwo
    cases hq.symm.trans h
    exact (htakes d).mp hd
  by_cases hthree : b.toNat < 0xF0
  · obtain ⟨q, hq, -, -, htakes⟩ := lead_three (b := b) (by omega) hthree
    cases hq.symm.trans h
    exact ((htakes d).mp hd).1
  · obtain ⟨q, hq, -, -, htakes⟩ := lead_four (b := b) (by omega) (by omega)
    cases hq.symm.trans h
    exact ((htakes d).mp hd).1

/-- A byte that is a scalar of its own is read as that, whatever stands before it. -/
theorem piecesFrom_append_cons {b : UInt8} (hb : b.toNat < 0x80) (a : Bytes) (p : Option Pending)
    (hp : ∀ q ∈ p, ∀ d, q.Takes d → IsTail d) :
    piecesFrom p (a ++ b :: r) =
      piecesFrom p a ++ some (Char.ofNat b.toNat) :: piecesFrom none r := by
  fun_induction piecesFrom p a with
  | case1 =>
      rw [List.nil_append, piecesFrom, lead_one hb]
      rfl
  | case2 q =>
      have hout : ¬(q.low ≤ b ∧ b ≤ q.high) := fun hin => by
        have hb' := (hp q rfl b hin).1
        omega
      rw [List.nil_append, piecesFrom, if_neg hout, lead_one hb]
      rfl
  | case3 c a d hlead ih =>
      rw [List.cons_append, piecesFrom, hlead, ih (by simp)]
      rfl
  | case4 c a q hlead ih =>
      rw [List.cons_append, piecesFrom, hlead]
      exact ih fun q' hq' d hd => isTail_of_lead (Option.some.inj hq' ▸ hlead) hd
  | case5 c a hlead ih =>
      rw [List.cons_append, piecesFrom, hlead, ih (by simp)]
      rfl
  | case6 q c a hin bits hlast ih =>
      rw [List.cons_append, piecesFrom, if_pos hin, if_pos hlast, ih (by simp)]
      rfl
  | case7 q c a hin bits hlast ih =>
      rw [List.cons_append, piecesFrom, if_pos hin, if_neg hlast]
      refine ih fun q' hq' d hd => ?_
      cases hq'
      exact hd
  | case8 q c a hin d hlead ih =>
      rw [List.cons_append, piecesFrom, if_neg hin, hlead]
      simp [ih]
  | case9 q c a hin q' hlead ih =>
      rw [List.cons_append, piecesFrom, if_neg hin, hlead]
      simp [ih fun q'' hq' d hd => isTail_of_lead (Option.some.inj hq' ▸ hlead) hd]
  | case10 q c a hin hlead ih =>
      rw [List.cons_append, piecesFrom, if_neg hin, hlead]
      simp [ih]

/-- Bytes are not ill-formed if no stretch of them is. -/
theorem isSome_decode?_iff {b : Bytes} : (decode? b).isSome ↔ none ∉ pieces b := by
  constructor
  · intro h
    obtain ⟨s, hs⟩ := Option.isSome_iff_exists.mp h
    rw [eq_map_some_of_mapM hs]
    simp
  · intro h
    have hpieces : ((pieces b).map (·.getD '\uFFFD')).map some = pieces b := by
      rw [List.map_map]
      refine (List.map_congr_left fun c hc => ?_).trans (List.map_id _)
      cases c with
      | none => exact absurd hc h
      | some c => rfl
    rw [decode?, ← hpieces, mapM_map_some]
    rfl

/-- The bytes of some text. -/
def IsText (b : Bytes) : Prop := ∃ s : String, ofString s = b

theorem isText_iff {b : Bytes} : IsText b ↔ (decode? b).isSome := by
  constructor
  · rintro ⟨s, rfl⟩
    rw [ofString, decode?_encode]
    rfl
  · exact fun h => ⟨toStringLossy b, ofString_toStringLossy h⟩

/-- **Around a scalar of one byte** there is text if the whole is text. -/
theorem isText_append_cons_iff {a : Bytes} {b : UInt8} (hb : b.toNat < 0x80) :
    IsText (a ++ b :: r) ↔ IsText a ∧ IsText r := by
  have hpieces : pieces (a ++ b :: r) = pieces a ++ some (Char.ofNat b.toNat) :: pieces r :=
    piecesFrom_append_cons hb a none (by simp)
  simp only [isText_iff, isSome_decode?_iff, hpieces, List.mem_append, List.mem_cons,
    reduceCtorEq, false_or, not_or]

end RecordingIndex.Utf8
