import ChainClient.Text.Utf8
import Mathlib.Tactic.Common

/-!
# Reading UTF-8 back

The bytes of text without lone surrogates are well-formed UTF-8 of that text, and bytes
that are read as text are the bytes of it. The four forms of a code point are taken one
by one: each lead byte promises as many continuation bytes as follow it, and their ranges
leave room for the bits that they hold and for no other form of them.
-/

namespace ChainClient

namespace Utf8

@[simp] theorem toNat_continuation (n : Nat) :
    (continuation n).toNat = 0x80 + n % 64 := by
  simp only [continuation, UInt8.toNat_ofNat']
  omega

/-- A continuation byte in range brings six bits. -/
theorem readTail_continuation
    {low high n : Nat}
    (inRange : low ≤ 0x80 + n % 64 ∧ 0x80 + n % 64 ≤ high)
    (value count fitted : Nat)
    (rest : Bytes) :
    readTail low high value (count + 1) (continuation n :: rest) fitted =
      readTail 0x80 0xBF (value * 64 + n % 64) count rest (fitted + 1) := by
  rw [readTail, toNat_continuation, if_pos inRange, Nat.add_sub_cancel_left]

/-- A step over a form whose lead byte and continuation bytes bring the code point. -/
theorem step_eq_ok
    {byte : UInt8}
    {count low high bits : Nat}
    {c : CodePoint}
    {tail rest : Bytes}
    (led : lead? .refused byte = some ⟨count, low, high, bits⟩)
    (followed : readTail low high bits count tail 0 = .complete c.val rest) :
    step .refused byte tail = .ok (c, rest) := by
  simp only [step, led, followed]
  rw [dif_pos c.isLt]

private theorem step_one
    {c : CodePoint}
    (small : c.val < 0x80)
    (rest : Bytes) :
    step .refused (UInt8.ofNat c.val) rest = .ok (c, rest) := by
  have byte : (UInt8.ofNat c.val).toNat = c.val := by
    simp only [UInt8.toNat_ofNat']
    omega
  have led : lead? .refused (UInt8.ofNat c.val) = some ⟨0, 0x80, 0xBF, c.val⟩ := by
    simp only [lead?, byte]
    rw [if_pos small]
  exact step_eq_ok led rfl

private theorem step_two
    {c : CodePoint}
    (lower : 0x80 ≤ c.val)
    (upper : c.val < 0x800)
    (rest : Bytes) :
    step .refused (UInt8.ofNat (0xC0 + c.val / 64)) (continuation c.val :: rest) =
      .ok (c, rest) := by
  have byte : (UInt8.ofNat (0xC0 + c.val / 64)).toNat = 0xC0 + c.val / 64 := by
    simp only [UInt8.toNat_ofNat']
    omega
  have led : lead? .refused (UInt8.ofNat (0xC0 + c.val / 64)) =
      some ⟨1, 0x80, 0xBF, c.val / 64⟩ := by
    simp only [lead?, byte]
    rw [if_neg (by omega), if_neg (by omega), if_pos (by omega), Nat.add_sub_cancel_left]
  refine step_eq_ok led ?_
  rw [readTail_continuation (by omega), readTail]
  congr 1
  omega

-- The second byte of this form shuts out overlong forms and, below 0xE000, surrogates.
private theorem step_three
    {c : CodePoint}
    (lower : 0x800 ≤ c.val)
    (upper : c.val < 0x10000)
    (scalar : ¬ c.IsSurrogate)
    (rest : Bytes) :
    step .refused (UInt8.ofNat (0xE0 + c.val / 4096))
        (continuation (c.val / 64) :: continuation c.val :: rest) =
      .ok (c, rest) := by
  have byte : (UInt8.ofNat (0xE0 + c.val / 4096)).toNat = 0xE0 + c.val / 4096 := by
    simp only [UInt8.toNat_ofNat']
    omega
  simp only [CodePoint.IsSurrogate, not_and] at scalar
  have led : lead? .refused (UInt8.ofNat (0xE0 + c.val / 4096)) =
      some ⟨2, if 0xE0 + c.val / 4096 = 0xE0 then 0xA0 else 0x80,
        if 0xE0 + c.val / 4096 = 0xED ∧ Surrogates.refused = .refused then 0x9F else 0xBF,
        c.val / 4096⟩ := by
    simp only [lead?, byte]
    rw [if_neg (by omega), if_neg (by omega), if_neg (by omega), if_pos (by omega),
      Nat.add_sub_cancel_left]
  have inRange : (if 0xE0 + c.val / 4096 = 0xE0 then 0xA0 else 0x80) ≤
        0x80 + c.val / 64 % 64 ∧
      0x80 + c.val / 64 % 64 ≤ (if 0xE0 + c.val / 4096 = 0xED ∧
        Surrogates.refused = .refused then 0x9F else 0xBF) := by
    constructor
    · split <;> omega
    · simp only [and_true]
      split <;> omega
  refine step_eq_ok led ?_
  rw [readTail_continuation inRange, readTail_continuation (by omega), readTail]
  congr 1
  omega

private theorem step_four
    {c : CodePoint}
    (lower : 0x10000 ≤ c.val)
    (rest : Bytes) :
    step .refused (UInt8.ofNat (0xF0 + c.val / 262144))
        (continuation (c.val / 4096) :: continuation (c.val / 64) ::
          continuation c.val :: rest) =
      .ok (c, rest) := by
  have upper := c.isLt
  have byte : (UInt8.ofNat (0xF0 + c.val / 262144)).toNat = 0xF0 + c.val / 262144 := by
    simp only [UInt8.toNat_ofNat']
    omega
  have led : lead? .refused (UInt8.ofNat (0xF0 + c.val / 262144)) =
      some ⟨3, if 0xF0 + c.val / 262144 = 0xF0 then 0x90 else 0x80,
        if 0xF0 + c.val / 262144 = 0xF4 then 0x8F else 0xBF, c.val / 262144⟩ := by
    simp only [lead?, byte]
    rw [if_neg (by omega), if_neg (by omega), if_neg (by omega), if_neg (by omega),
      if_pos (by omega), Nat.add_sub_cancel_left]
  have inRange : (if 0xF0 + c.val / 262144 = 0xF0 then 0x90 else 0x80) ≤
        0x80 + c.val / 4096 % 64 ∧
      0x80 + c.val / 4096 % 64 ≤ (if 0xF0 + c.val / 262144 = 0xF4 then 0x8F else 0xBF) := by
    constructor <;> split <;> omega
  refine step_eq_ok led ?_
  rw [readTail_continuation inRange, readTail_continuation (by omega),
    readTail_continuation (by omega), readTail]
  congr 1
  omega

/-- The bytes of a code point are a lead byte, from which a step gets over all of them. -/
theorem exists_step_encodePoint
    {c : CodePoint}
    (scalar : ¬ c.IsSurrogate) :
    ∃ byte tail, encodePoint c = byte :: tail ∧
      ∀ rest, step .refused byte (tail ++ rest) = .ok (c, rest) := by
  by_cases one : c.val < 0x80
  · exact ⟨_, [], by simp only [encodePoint, if_pos one], step_one one⟩
  · by_cases two : c.val < 0x800
    · exact ⟨_, [continuation c.val], by simp only [encodePoint, if_neg one, if_pos two],
        step_two (by omega) two⟩
    · by_cases three : c.val < 0x10000
      · exact ⟨_, [continuation (c.val / 64), continuation c.val],
          by simp only [encodePoint, if_neg one, if_neg two, if_pos three],
          step_three (by omega) three scalar⟩
      · exact ⟨_, [continuation (c.val / 4096), continuation (c.val / 64),
            continuation c.val],
          by simp only [encodePoint, if_neg one, if_neg two, if_neg three],
          step_four (by omega)⟩

/-- The bytes of text are read back, if there is fuel for each code point. -/
theorem decodeWith_flatMap_encodePoint
    {t : Text}
    (scalar : t.IsScalar)
    {fuel : Nat}
    (enough : t.length ≤ fuel) :
    decodeWith .refused fuel (t.flatMap encodePoint) = some t := by
  induction t generalizing fuel with
  | nil => cases fuel <;> rfl
  | cons c t inductionHypothesis =>
      obtain ⟨byte, tail, form, stepped⟩ :=
        exists_step_encodePoint (scalar c List.mem_cons_self)
      have restScalar : Text.IsScalar t := fun d present =>
        scalar d (List.mem_cons_of_mem c present)
      cases fuel with
      | zero => simp at enough
      | succ fuel =>
          have restEnough : t.length ≤ fuel := by simpa using enough
          rw [List.flatMap_cons, form, List.cons_append, decodeWith, stepped]
          simp only [inductionHypothesis restScalar restEnough, Option.map_some]

/-- A code point is written in one to four bytes. -/
theorem length_encodePoint (c : CodePoint) :
    1 ≤ (encodePoint c).length ∧ (encodePoint c).length ≤ 4 := by
  simp only [encodePoint]
  split
  · simp
  · split
    · simp
    · split <;> simp

theorem length_le_length_flatMap_encodePoint (t : Text) :
    t.length ≤ (t.flatMap encodePoint).length := by
  induction t with
  | nil => simp
  | cons c t inductionHypothesis =>
      have first := length_encodePoint c
      simp only [List.flatMap_cons, List.length_append, List.length_cons]
      omega

theorem length_flatMap_encodePoint_le (t : Text) :
    (t.flatMap encodePoint).length ≤ 4 * t.length := by
  induction t with
  | nil => simp
  | cons c t inductionHypothesis =>
      have first := length_encodePoint c
      simp only [List.flatMap_cons, List.length_append, List.length_cons]
      omega

/-- Text without lone surrogates is read back from its bytes. -/
theorem decode?_flatMap_encodePoint
    {t : Text}
    (scalar : t.IsScalar) :
    decode? (t.flatMap encodePoint) = some t :=
  decodeWith_flatMap_encodePoint scalar (length_le_length_flatMap_encodePoint t)

/-! ## What is read is written back -/

/-- The forms of a lead byte, each with its promise. The range of the first continuation
byte shuts out overlong forms, surrogates and what is past the last code point. -/
inductive Leads (byte : UInt8) : Lead → Prop
  | one :
      byte.toNat < 0x80 →
      Leads byte ⟨0, 0x80, 0xBF, byte.toNat⟩
  | two :
      0xC2 ≤ byte.toNat ∧ byte.toNat < 0xE0 →
      Leads byte ⟨1, 0x80, 0xBF, byte.toNat - 0xC0⟩
  | three
      {low high : Nat} :
      0xE0 ≤ byte.toNat ∧ byte.toNat < 0xF0 →
      0x80 ≤ low ∧ (byte.toNat = 0xE0 → 0xA0 ≤ low) →
      high ≤ 0xBF ∧ (byte.toNat = 0xED → high ≤ 0x9F) →
      Leads byte ⟨2, low, high, byte.toNat - 0xE0⟩
  | four
      {low high : Nat} :
      0xF0 ≤ byte.toNat ∧ byte.toNat < 0xF5 →
      0x80 ≤ low ∧ (byte.toNat = 0xF0 → 0x90 ≤ low) →
      high ≤ 0xBF →
      Leads byte ⟨3, low, high, byte.toNat - 0xF0⟩

theorem leads_of_lead?
    {byte : UInt8}
    {lead : Lead}
    (led : lead? .refused byte = some lead) :
    Leads byte lead := by
  simp only [lead?, and_true] at led
  split at led
  · next one =>
      cases led
      exact .one one
  · split at led
    · cases led
    · split at led
      · cases led
        exact .two (by omega)
      · split at led
        · cases led
          exact .three (by omega) (by split <;> omega) (by split <;> omega)
        · split at led
          · cases led
            exact .four (by omega) (by split <;> omega) (by split <;> omega)
          · cases led

/-- A tail that is complete has its continuation bytes in their ranges. -/
theorem exists_of_readTail_eq_complete
    {low high value count fitted found : Nat}
    {bytes rest : Bytes}
    (read : readTail low high value (count + 1) bytes fitted = .complete found rest) :
    ∃ byte tail, bytes = byte :: tail ∧ (low ≤ byte.toNat ∧ byte.toNat ≤ high) ∧
      readTail 0x80 0xBF (value * 64 + (byte.toNat - 0x80)) count tail (fitted + 1) =
        .complete found rest := by
  cases bytes with
  | nil => cases read
  | cons byte tail =>
      rw [readTail] at read
      split at read
      · next inRange => exact ⟨byte, tail, rfl, inRange, read⟩
      · cases read

theorem ofNat_eq
    (byte : UInt8)
    {n : Nat}
    (same : n = byte.toNat) :
    UInt8.ofNat n = byte := by
  rw [same, UInt8.ofNat_toNat]

/-- A byte is the continuation byte that writes its six bits. -/
theorem continuation_eq
    (byte : UInt8)
    {n : Nat}
    (same : 0x80 + n % 64 = byte.toNat) :
    continuation n = byte :=
  ofNat_eq byte same

/-- The form of a lead byte and the bytes behind it is the one that writing uses for their
code point, which is no surrogate. -/
theorem Leads.encodePoint_append
    {byte : UInt8}
    {lead : Lead}
    {bytes rest : Bytes}
    {c : CodePoint}
    (leads : Leads byte lead)
    (complete : readTail lead.low lead.high lead.bits lead.count bytes 0 = .complete c.val rest) :
    ¬ c.IsSurrogate ∧ encodePoint c ++ rest = byte :: bytes := by
  unfold CodePoint.IsSurrogate encodePoint
  cases leads with
  | one small =>
      obtain ⟨value, rfl⟩ := Tail.complete.inj complete
      simp only [← value, if_pos small, UInt8.ofNat_toNat]
      exact ⟨by omega, rfl⟩
  | two range =>
      dsimp only at complete
      obtain ⟨first, tail, rfl, firstRange, complete⟩ := exists_of_readTail_eq_complete complete
      obtain ⟨value, rfl⟩ := Tail.complete.inj complete
      rw [if_neg (by omega), if_pos (by omega), ofNat_eq byte (by omega),
        continuation_eq first (by omega)]
      exact ⟨by omega, rfl⟩
  | three range lowest highest =>
      dsimp only at complete
      obtain ⟨first, tail, rfl, firstRange, complete⟩ := exists_of_readTail_eq_complete complete
      obtain ⟨second, tail, rfl, secondRange, complete⟩ := exists_of_readTail_eq_complete complete
      obtain ⟨value, rfl⟩ := Tail.complete.inj complete
      rw [if_neg (by omega), if_neg (by omega), if_pos (by omega),
        ofNat_eq byte (by omega), continuation_eq first (by omega),
        continuation_eq second (by omega)]
      exact ⟨by omega, rfl⟩
  | four range lowest highest =>
      dsimp only at complete
      obtain ⟨first, tail, rfl, firstRange, complete⟩ := exists_of_readTail_eq_complete complete
      obtain ⟨second, tail, rfl, secondRange, complete⟩ := exists_of_readTail_eq_complete complete
      obtain ⟨third, tail, rfl, thirdRange, complete⟩ := exists_of_readTail_eq_complete complete
      obtain ⟨value, rfl⟩ := Tail.complete.inj complete
      rw [if_neg (by omega), if_neg (by omega), if_neg (by omega),
        ofNat_eq byte (by omega), continuation_eq first (by omega),
        continuation_eq second (by omega), continuation_eq third (by omega)]
      exact ⟨by omega, rfl⟩

/-- A step gets over the bytes of the code point that it brings. -/
theorem encodePoint_append_of_step
    {byte : UInt8}
    {bytes rest : Bytes}
    {c : CodePoint}
    (stepped : step .refused byte bytes = .ok (c, rest)) :
    ¬ c.IsSurrogate ∧ encodePoint c ++ rest = byte :: bytes := by
  unfold step at stepped
  split at stepped
  · cases stepped
  · next lead led =>
      split at stepped
      · next value behind complete =>
          split at stepped
          · next bounded =>
              cases stepped
              exact (leads_of_lead? led).encodePoint_append complete
          · cases stepped
      · cases stepped

theorem flatMap_encodePoint_of_decodeWith
    {fuel : Nat}
    {bytes : Bytes}
    {t : Text}
    (read : decodeWith .refused fuel bytes = some t) :
    t.IsScalar ∧ t.flatMap encodePoint = bytes := by
  induction fuel generalizing bytes t with
  | zero =>
      cases bytes with
      | nil =>
          cases read
          exact ⟨by simp [Text.IsScalar], rfl⟩
      | cons byte bytes => cases read
  | succ fuel inductionHypothesis =>
      cases bytes with
      | nil =>
          cases read
          exact ⟨by simp [Text.IsScalar], rfl⟩
      | cons byte bytes =>
          rw [decodeWith] at read
          split at read
          · next c rest stepped =>
              obtain ⟨others, othersRead, rfl⟩ := Option.map_eq_some_iff.mp read
              obtain ⟨scalar, written⟩ := encodePoint_append_of_step stepped
              obtain ⟨othersScalar, othersWritten⟩ := inductionHypothesis othersRead
              refine ⟨?_, ?_⟩
              · intro d present
                rcases List.mem_cons.mp present with rfl | inOthers
                · exact scalar
                · exact othersScalar d inOthers
              · rw [List.flatMap_cons, othersWritten, written]
          · cases read

/-- Bytes are read as text exactly if they are the bytes of that text, which then has no
lone surrogate. -/
theorem decode?_eq_some_iff
    {bytes : Bytes}
    {t : Text} :
    decode? bytes = some t ↔ t.IsScalar ∧ t.flatMap encodePoint = bytes := by
  constructor
  · intro read
    exact flatMap_encodePoint_of_decodeWith read
  · rintro ⟨scalar, rfl⟩
    exact decode?_flatMap_encodePoint scalar

end Utf8

end ChainClient
