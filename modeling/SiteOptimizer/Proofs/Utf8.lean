import SiteOptimizer.Text.Utf8

/-!
# Reading what was written

The bytes of each character are read back as that character, so a text that is written as UTF-8 is
read again as it was (`decode_encode`).
-/

namespace SiteOptimizer
namespace Utf8

/-- A byte that carries six bits of a character. -/
def tail (n : Nat) : UInt8 :=
  UInt8.ofNat (n % 64 + 0x80)

theorem toNat_tail (n : Nat) : (tail n).toNat = n % 64 + 0x80 :=
  UInt8.toNat_ofNat_of_lt' (show n % 64 + 0x80 < 256 by omega)

theorem continuation_tail {bits low high taken more n : Nat} {bytes : List UInt8}
    (hlow : low ≤ n % 64 + 0x80) (hhigh : n % 64 + 0x80 ≤ high) :
    continuation bits low high taken (more + 1) (tail n :: bytes) =
      continuation (bits * 64 + n % 64) 0x80 0xBF (taken + 1) more bytes := by
  have hmod : (n % 64 + 0x80) % 64 = n % 64 := by omega
  rw [continuation, toNat_tail, hmod, if_pos (by simp [hlow, hhigh])]

theorem decodeFrom_cons {start : Nat} {b : UInt8} {bytes rest : List UInt8} {lead : Lead} {n : Nat}
    (hlead : lead? b.toNat = some lead)
    (hmore : continuation lead.bits lead.low lead.high 1 lead.more bytes = .ok (n, rest)) :
    decodeFrom start (b :: bytes) =
      (decodeFrom (start + 1 + lead.more) rest).map (Char.ofNat n :: ·) := by
  rw [decodeFrom, hlead]
  dsimp only
  split
  · next h => rw [hmore] at h; cases h
  · next h =>
    rw [hmore] at h
    cases h
    cases decodeFrom (start + 1 + lead.more) rest <;> rfl

/-- What a lead byte and the bytes behind it announce. -/
structure Announces (b : UInt8) (bytes : List UInt8) (n : Nat) : Prop where
  read : ∃ lead, lead? b.toNat = some lead ∧ lead.more = bytes.length ∧
    ∀ rest, continuation lead.bits lead.low lead.high 1 lead.more (bytes ++ rest) = .ok (n, rest)

theorem announces_one {n : Nat} (h : n < 0x80) : Announces (UInt8.ofNat n) [] n := by
  have hn : (UInt8.ofNat n).toNat = n := UInt8.toNat_ofNat_of_lt' (show n < 256 by omega)
  exact ⟨_, by rw [hn, lead?, if_pos h], rfl, fun rest => rfl⟩

theorem announces_two {n : Nat} (hlow : 0x80 ≤ n) (hhigh : n < 0x800) :
    Announces (UInt8.ofNat (n / 64 % 0x20 + 0xC0)) [tail n] n := by
  have hn : (UInt8.ofNat (n / 64 % 0x20 + 0xC0)).toNat = n / 64 + 0xC0 := by
    rw [UInt8.toNat_ofNat_of_lt' (show n / 64 % 0x20 + 0xC0 < 256 by omega)]
    omega
  refine ⟨⟨n / 64, 1, 0x80, 0xBF⟩, ?_, rfl, fun rest => ?_⟩
  · rw [hn, lead?, if_neg (by omega), if_neg (by omega), if_pos (by omega), Nat.add_sub_cancel]
  · rw [List.singleton_append]
    dsimp only
    rw [continuation_tail (by omega) (by omega), continuation]
    congr 2
    omega

theorem announces_three {n : Nat} (hlow : 0x800 ≤ n) (hhigh : n < 0x10000)
    (hvalid : n < 0xD800 ∨ 0xDFFF < n) :
    Announces (UInt8.ofNat (n / 4096 % 0x10 + 0xE0)) [tail (n / 64), tail n] n := by
  have hn : (UInt8.ofNat (n / 4096 % 0x10 + 0xE0)).toNat = n / 4096 + 0xE0 := by
    rw [UInt8.toNat_ofNat_of_lt' (show n / 4096 % 0x10 + 0xE0 < 256 by omega)]
    omega
  -- the first byte behind the lead byte is bounded below after E0, and above after ED
  have hlead : ∃ low high, low ≤ n / 64 % 64 + 0x80 ∧ n / 64 % 64 + 0x80 ≤ high ∧
      lead? (n / 4096 + 0xE0) = some ⟨n / 4096, 2, low, high⟩ := by
    unfold lead?
    rw [if_neg (by omega), if_neg (by omega), if_neg (by omega)]
    split
    · exact ⟨0xA0, 0xBF, by omega, by omega, by rw [show n / 4096 = 0 by omega]⟩
    · split
      · exact ⟨0x80, 0x9F, by omega, by omega, by rw [show n / 4096 = 0xD by omega]⟩
      · exact ⟨0x80, 0xBF, by omega, by omega, by rw [if_pos (by omega), Nat.add_sub_cancel]⟩
  obtain ⟨low, high, hl, hh, hlead⟩ := hlead
  refine ⟨_, hn ▸ hlead, rfl, fun rest => ?_⟩
  rw [List.cons_append, List.singleton_append]
  dsimp only
  rw [continuation_tail hl hh, continuation_tail (by omega) (by omega), continuation]
  congr 2
  omega

theorem announces_four {n : Nat} (hlow : 0x10000 ≤ n) (hhigh : n < 0x110000) :
    Announces (UInt8.ofNat (n / 262144 % 0x08 + 0xF0)) [tail (n / 4096),
      tail (n / 64), tail n] n := by
  have hn : (UInt8.ofNat (n / 262144 % 0x08 + 0xF0)).toNat = n / 262144 + 0xF0 := by
    rw [UInt8.toNat_ofNat_of_lt' (show n / 262144 % 0x08 + 0xF0 < 256 by omega)]
    omega
  -- the first byte behind the lead byte is bounded below after F0, and above after F4
  have hlead : ∃ low high, low ≤ n / 4096 % 64 + 0x80 ∧ n / 4096 % 64 + 0x80 ≤ high ∧
      lead? (n / 262144 + 0xF0) = some ⟨n / 262144, 3, low, high⟩ := by
    unfold lead?
    rw [if_neg (by omega), if_neg (by omega), if_neg (by omega), if_neg (by omega),
      if_neg (by omega), if_neg (by omega)]
    split
    · exact ⟨0x90, 0xBF, by omega, by omega, by rw [show n / 262144 = 0 by omega]⟩
    · split
      · exact ⟨0x80, 0xBF, by omega, by omega, by rw [Nat.add_sub_cancel]⟩
      · exact ⟨0x80, 0x8F, by omega, by omega, by
          rw [if_pos (by omega), show n / 262144 = 4 by omega]⟩
  obtain ⟨low, high, hl, hh, hlead⟩ := hlead
  refine ⟨_, hn ▸ hlead, rfl, fun rest => ?_⟩
  rw [List.cons_append, List.cons_append, List.singleton_append]
  dsimp only
  rw [continuation_tail hl hh, continuation_tail (by omega) (by omega),
    continuation_tail (by omega) (by omega), continuation]
  congr 2
  omega

/-- The bytes of a character announce it. -/
theorem announces_utf8EncodeChar (c : Char) :
    ∃ b bytes, String.utf8EncodeChar c = b :: bytes ∧ Announces b bytes c.toNat := by
  have hvalid : c.toNat < 0xD800 ∨ 0xDFFF < c.toNat ∧ c.toNat < 0x110000 := c.valid
  unfold String.utf8EncodeChar
  dsimp only
  split
  · exact ⟨_, _, rfl, announces_one (Nat.lt_succ_of_le ‹_›)⟩
  · split
    · exact ⟨_, _, rfl, announces_two (Nat.lt_of_not_le ‹_›) (Nat.lt_succ_of_le ‹_›)⟩
    · split
      · exact ⟨_, _, rfl, announces_three (Nat.lt_of_not_le ‹_›) (Nat.lt_succ_of_le ‹_›)
          (hvalid.imp_right And.left)⟩
      · have hlow : 0x10000 ≤ c.toNat := Nat.lt_of_not_le ‹_›
        have hhigh : c.toNat < 0x110000 := by omega
        exact ⟨_, _, rfl, announces_four hlow hhigh⟩

theorem decodeFrom_encode (start : Nat) (s : Text) : decodeFrom start (encode s) = .ok s := by
  induction s generalizing start with
  | nil => rw [encode, List.flatMap_nil, decodeFrom]
  | cons c s ih =>
    obtain ⟨b, bytes, hbytes, ⟨lead, hlead, hmore, hread⟩⟩ := announces_utf8EncodeChar c
    have hcons : encode (c :: s) = b :: (bytes ++ encode s) := by
      rw [← List.cons_append, ← hbytes]
      exact List.flatMap_cons
    rw [hcons, decodeFrom_cons hlead (hread (encode s)), ih, Char.ofNat_toNat]
    rfl

/-- **A text is read as it was written.** -/
theorem decode_encode (s : Text) : decode (encode s) = .ok s :=
  decodeFrom_encode 0 s

end Utf8
end SiteOptimizer
