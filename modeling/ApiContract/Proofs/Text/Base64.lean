import ApiContract.Proofs.Text.Run
import ApiContract.Text.Base64

/-!
Reading base64 undoes writing it, with both alphabets. Written texts are graphic, and only padding
is an equals sign.
-/

namespace ApiContract.Text.Base64

theorem value?_digit (alphabet : Alphabet) (n : Nat) :
    value? alphabet (digit alphabet n) = some (n % 64) := by
  have table : ∀ k < 64, value? alphabet (alphabet.digits.getD k 'A') = some k := by
    cases alphabet <;> decide +kernel
  exact table (n % 64) (Nat.mod_lt n (by decide))

theorem digit_graphic (alphabet : Alphabet) (n : Nat) :
    IsGraphic (digit alphabet n) ∧ digit alphabet n ≠ '=' := by
  have table : ∀ k < 64, IsGraphic (alphabet.digits.getD k 'A') ∧
      alphabet.digits.getD k 'A' ≠ '=' := by
    cases alphabet <;> decide +kernel
  exact table (n % 64) (Nat.mod_lt n (by decide))

theorem encodeBytes_graphic (alphabet : Alphabet) (bytes : List UInt8) :
    ∀ c ∈ encodeBytes alphabet bytes, IsGraphic c := by
  have digits := fun n => (digit_graphic alphabet n).1
  have filled : ∀ count, ∀ c ∈ padding alphabet count, IsGraphic c := by
    intro count c member
    cases alphabet with
    | urlSafe => cases member
    | standard =>
        rw [List.eq_of_mem_replicate member]
        decide
  fun_induction encodeBytes alphabet bytes with
  | case1 => simp
  | case2 a n =>
      intro c member
      rcases List.mem_append.mp member with inside | inside
      · simp only [List.mem_cons, List.not_mem_nil, or_false] at inside
        rcases inside with same | same <;> exact same ▸ digits _
      · exact filled 2 c inside
  | case3 a b n =>
      intro c member
      rcases List.mem_append.mp member with inside | inside
      · simp only [List.mem_cons, List.not_mem_nil, or_false] at inside
        rcases inside with same | same | same <;> exact same ▸ digits _
      · exact filled 1 c inside
  | case4 a b c rest n ih =>
      intro c member
      rcases List.mem_append.mp member with inside | inside
      · simp only [List.mem_cons, List.not_mem_nil, or_false] at inside
        rcases inside with same | same | same | same <;> exact same ▸ digits _
      · exact ih c inside

/-- The URL-safe form has no padding to trim. -/
theorem encodeBytes_urlSafe_ne (bytes : List UInt8) : ∀ c ∈ encodeBytes .urlSafe bytes, c ≠ '=' := by
  have digits := fun n => (digit_graphic .urlSafe n).2
  fun_induction encodeBytes .urlSafe bytes with
  | case1 => simp
  | case2 a n => simpa [padding] using ⟨digits _, digits _⟩
  | case3 a b n => simpa [padding] using ⟨digits _, digits _, digits _⟩
  | case4 a b c rest n ih => simpa using ⟨digits _, digits _, digits _, digits _, ih⟩

/-- Four characters that are no padding give three bytes. -/
theorem decodeChars_group (alphabet : Alphabet) {a b c d : Char} (notPadding : d ≠ '=')
    (rest : List Char) :
    decodeChars alphabet (a :: b :: c :: d :: rest) = (do
      let a ← value? alphabet a
      let b ← value? alphabet b
      let c ← value? alphabet c
      let d ← value? alphabet d
      let n := ((a * 64 + b) * 64 + c) * 64 + d
      let rest ← decodeChars alphabet rest
      some (UInt8.ofNat (n / 65536) :: UInt8.ofNat (n / 256) :: UInt8.ofNat n :: rest)) := by
  rw [decodeChars.eq_def]
  split
  next same => simp_all
  next same => simp_all
  next same =>
    cases same
    rfl
  next other => exact absurd rfl (other a b c d rest)

theorem decodeChars_encodeBytes (alphabet : Alphabet) (bytes : List UInt8) :
    decodeChars alphabet (encodeBytes alphabet bytes) = some bytes := by
  fun_induction encodeBytes alphabet bytes with
  | case1 => cases alphabet <;> rfl
  | case2 a n =>
      have small := a.toNat_lt
      have value : (n / 64 % 64 * 64 + n % 64) = n := by omega
      have zero : n % 16 = 0 := by omega
      have byte : UInt8.ofNat (n / 16) = a := by
        rw [← UInt8.toNat_inj, UInt8.toNat_ofNat']
        omega
      cases alphabet <;>
        simp [decodeChars, padding, List.replicate, decodeTail, value?_digit, value, zero, byte]
  | case3 a b n =>
      have smallA := a.toNat_lt
      have smallB := b.toNat_lt
      have value : ((n / 4096 % 64 * 64 + n / 64 % 64) * 64 + n % 64) = n := by omega
      have zero : n % 4 = 0 := by omega
      have first : UInt8.ofNat (n / 1024) = a := by
        rw [← UInt8.toNat_inj, UInt8.toNat_ofNat']
        omega
      have second : UInt8.ofNat (n / 4) = b := by
        rw [← UInt8.toNat_inj, UInt8.toNat_ofNat']
        omega
      -- The third character is no padding, which tells this group from one of two characters.
      have notPadding := (digit_graphic alphabet n).2
      cases alphabet <;>
        simp [decodeChars, padding, List.replicate, decodeTail, value?_digit, value, zero, first,
          second]
  | case4 a b c rest n ih =>
      have smallA := a.toNat_lt
      have smallB := b.toNat_lt
      have smallC := c.toNat_lt
      have value : (((n / 262144 % 64 * 64 + n / 4096 % 64) * 64 + n / 64 % 64) * 64 + n % 64) =
          n := by omega
      have first : UInt8.ofNat (n / 65536) = a := by
        rw [← UInt8.toNat_inj, UInt8.toNat_ofNat']
        omega
      have second : UInt8.ofNat (n / 256) = b := by
        rw [← UInt8.toNat_inj, UInt8.toNat_ofNat']
        omega
      have third : UInt8.ofNat n = c := by
        rw [← UInt8.toNat_inj, UInt8.toNat_ofNat']
        omega
      rw [List.cons_append, List.cons_append, List.cons_append, List.cons_append, List.nil_append,
        decodeChars_group alphabet (digit_graphic alphabet n).2]
      simp only [value?_digit, Option.bind_eq_bind, Option.bind_some, value, first, second, third,
        ih]

theorem decode?_encode (alphabet : Alphabet) (bytes : List UInt8) :
    decode? alphabet (encode alphabet bytes) = some bytes := by
  rw [decode?, encode, String.toList_ofList, decodeChars_encodeBytes]

end ApiContract.Text.Base64
