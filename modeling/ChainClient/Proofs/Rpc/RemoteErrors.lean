import ChainClient.Proofs.Encoding.Documents
import ChainClient.Proofs.Results

/-!
# Errors of a node

The error member of a reply may be any datum. What a document can hold is read as a remote error
with an integer for its code and a text for its message, but for one case: the code is an infinite
number, and then it has no integer part.
-/

namespace ChainClient

/-- What a message can show it can show without quotes. -/
theorem Datum.IsShowable.exists_shown
    {d : Datum}
    (showable : d.IsShowable) :
    ∃ t, d.shown? = some t := by
  cases d with
  | text t => exact ⟨t, rfl⟩
  | null | bool | int | float | bytes | list | record => exact Option.isSome_iff_exists.mp showable

namespace RemoteError

/-! ## Codes -/

/-- Of all data only the infinite numbers are too large for an integer. -/
theorem toInt_eq_tooLarge_iff
    {code : Datum} :
    code.toInt = .error .tooLarge ↔ ∃ negative, code = .float (.infinite negative) := by
  have notTooLarge : ∀ found : Option Int, Datum.orBadValue found ≠ .error .tooLarge := by
    intro found
    cases found <;> simp [Datum.orBadValue]
  cases code with
  | null | bool _ | int _ | list _ | record _ => simp [Datum.toInt]
  | text _ | bytes _ => simp [Datum.toInt, notTooLarge]
  | float x =>
      cases x with
      | infinite negative => simp [Datum.toInt]
      | finite _ _ | nan => simp [Datum.toInt, notTooLarge]

/-- What is no integer is of the wrong kind, or has a value that does not convert. -/
theorem toInt_eq_error
    {code : Datum}
    {misuse : Misuse}
    (fails : code.toInt = .error misuse) :
    misuse = .tooLarge ∨ misuse = .badValue none ∨ misuse = .wrongKind none := by
  have badValue : ∀ found : Option Int, Datum.orBadValue found = .error misuse →
      misuse = .badValue none := by
    intro found failed
    cases found <;> simp_all [Datum.orBadValue]
  unfold Datum.toInt at fails
  split at fails
  · cases fails
  · cases fails
  · cases fails
    exact .inl rfl
  · exact .inr (.inl (badValue _ fails))
  · exact .inr (.inl (badValue _ fails))
  · exact .inr (.inl (badValue _ fails))
  · cases fails
    exact .inr (.inr rfl)

/-- The code that a code member stands for: the integer that it converts to, or the code of an
error without one. -/
inductive CodeOf : Option Datum → Int → Prop
  | given
      {code : Datum}
      {n : Int} :
      code.toInt = .ok n →
      CodeOf (some code) n
  | unconvertible
      {code : Datum}
      {misuse : Misuse} :
      code.toInt = .error misuse →
      misuse ≠ .tooLarge →
      CodeOf (some code) serverErrorCode
  | absent :
      CodeOf none serverErrorCode

theorem codeOf_eq_ok_iff
    {code : Datum}
    {n : Int} :
    codeOf code = .ok n ↔ CodeOf (some code) n := by
  constructor
  · intro found
    unfold codeOf at found
    split at found
    · next converted =>
        cases found
        exact .given converted
    · next failed =>
        cases found
        exact .unconvertible failed Misuse.noConfusion
    · next failed =>
        cases found
        exact .unconvertible failed Misuse.noConfusion
    · cases found
  · intro stands
    cases stands with
    | given converted => rw [codeOf, converted]
    | unconvertible failed bounded =>
        rcases toInt_eq_error failed with rfl | rfl | rfl
        · exact absurd rfl bounded
        · rw [codeOf, failed]
        · rw [codeOf, failed]

theorem codeOf_eq_error_iff
    {code : Datum}
    {misuse : Misuse} :
    codeOf code = .error misuse ↔
      misuse = .tooLarge ∧ ∃ negative, code = .float (.infinite negative) := by
  rw [← toInt_eq_tooLarge_iff]
  constructor
  · intro fails
    cases converted : code.toInt with
    | ok n =>
        rw [codeOf, converted] at fails
        cases fails
    | error other =>
        rw [codeOf, converted] at fails
        rcases toInt_eq_error converted with rfl | rfl | rfl
        · cases fails
          exact ⟨rfl, rfl⟩
        · cases fails
        · cases fails
  · rintro ⟨rfl, tooLarge⟩
    rw [codeOf, tooLarge]

/-! ## Error members -/

/-- The message that a message member stands for. -/
inductive MessageOf : Option Datum → Text → Prop
  | given
      {message : Datum}
      {t : Text} :
      message.shown? = some t →
      MessageOf (some message) t
  | absent :
      MessageOf none "Unknown JSON-RPC error"

/-- The remote error that an error member is read as. -/
inductive IsReadAs (method requestId : Datum) : Datum → RemoteError → Prop
  | record
      {entries : Entries}
      {code : Int}
      {message : Text} :
      CodeOf (entries.get? "code") code →
      MessageOf (entries.get? "message") message →
      IsReadAs method requestId (.record entries)
        ⟨code, message, entries.getD "data", method, requestId⟩
  | other
      {member : Datum}
      {message : Text} :
      (∀ entries, member ≠ .record entries) →
      member.shown? = some message →
      IsReadAs method requestId member ⟨serverErrorCode, message, .null, method, requestId⟩

/-- The code of the error member is an infinite number. -/
def HasInfiniteCode (member : Datum) : Prop :=
  ∃ entries negative, member = .record entries ∧
    Entries.get? "code" entries = some (.float (.infinite negative))

variable {member method requestId : Datum}

/-- The code that is read from a code member. -/
def readCode : Option Datum → Outcome Int
  | some code => Failure.liftMisuse (codeOf code)
  | none => .ok serverErrorCode

/-- The message that is read from a message member. -/
def readMessage : Option Datum → Outcome Text
  | some message => Failure.shown message
  | none => .ok "Unknown JSON-RPC error"

/-- A record is read by its members. -/
theorem ofReply_record (entries : Entries) :
    ofReply (.record entries) method requestId =
      readCode (entries.get? "code") >>= fun code =>
        readMessage (entries.get? "message") >>= fun message =>
          .ok ⟨code, message, entries.getD "data", method, requestId⟩ := by
  unfold ofReply
  dsimp only
  cases entries.get? "code" with
  | none => cases entries.get? "message" <;> rfl
  | some code => cases entries.get? "message" <;> rfl

/-- What is no record is read by its text alone. -/
theorem ofReply_of_ne_record
    (notRecord : ∀ entries, member ≠ .record entries) :
    ofReply member method requestId =
      Failure.shown member >>= fun message =>
        .ok ⟨serverErrorCode, message, .null, method, requestId⟩ := by
  unfold ofReply
  split
  · exact absurd rfl (notRecord _)
  · rfl

theorem readCode_eq_ok_iff
    {code : Option Datum}
    {n : Int} :
    readCode code = .ok n ↔ CodeOf code n := by
  cases code with
  | none =>
      constructor
      · intro found
        cases found
        exact .absent
      · intro stands
        cases stands
        rfl
  | some code =>
      rw [← codeOf_eq_ok_iff, readCode]
      cases codeOf code <;> simp [Failure.liftMisuse]

theorem readCode_eq_error_iff
    {code : Option Datum}
    {failure : Failure} :
    readCode code = .error failure ↔
      failure = .misuse .tooLarge ∧ ∃ negative, code = some (.float (.infinite negative)) := by
  cases code with
  | none => simp [readCode]
  | some code =>
      simp only [Option.some.injEq]
      constructor
      · intro fails
        cases given : codeOf code with
        | ok n =>
            rw [readCode, given] at fails
            cases fails
        | error misuse =>
            rw [readCode, given] at fails
            cases fails
            obtain ⟨rfl, infinite⟩ := codeOf_eq_error_iff.mp given
            exact ⟨rfl, infinite⟩
      · rintro ⟨rfl, infinite⟩
        rw [readCode, codeOf_eq_error_iff.mpr ⟨rfl, infinite⟩]
        rfl

theorem shown_eq_ok_iff
    {d : Datum}
    {t : Text} :
    Failure.shown d = .ok t ↔ d.shown? = some t := by
  unfold Failure.shown
  cases d.shown? <;> simp [Failure.orUnwritable]

theorem readMessage_eq_ok_iff
    {message : Option Datum}
    {t : Text} :
    readMessage message = .ok t ↔ MessageOf message t := by
  cases message with
  | none =>
      constructor
      · intro found
        cases found
        exact .absent
      · intro stands
        cases stands
        rfl
  | some message =>
      refine shown_eq_ok_iff.trans ⟨.given, ?_⟩
      intro stands
      cases stands with
      | given shown => exact shown

/-- An error member is read as a remote error in this way and no other. -/
theorem ofReply_eq_ok_iff
    {error : RemoteError} :
    ofReply member method requestId = .ok error ↔ IsReadAs method requestId member error := by
  constructor
  · intro read
    by_cases record : ∃ entries, member = .record entries
    · obtain ⟨entries, rfl⟩ := record
      rw [ofReply_record] at read
      obtain ⟨code, codeRead, read⟩ := bind_eq_ok_iff.mp read
      obtain ⟨message, messageRead, read⟩ := bind_eq_ok_iff.mp read
      cases read
      exact .record (readCode_eq_ok_iff.mp codeRead) (readMessage_eq_ok_iff.mp messageRead)
    · have notRecord := not_exists.mp record
      rw [ofReply_of_ne_record notRecord] at read
      obtain ⟨message, messageRead, read⟩ := bind_eq_ok_iff.mp read
      cases read
      exact .other notRecord (shown_eq_ok_iff.mp messageRead)
  · intro reads
    cases reads with
    | record code message =>
        rw [ofReply_record, readCode_eq_ok_iff.mpr code]
        change readMessage _ >>= _ = _
        rw [readMessage_eq_ok_iff.mpr message]
        rfl
    | other notRecord shown =>
        rw [ofReply_of_ne_record notRecord, shown_eq_ok_iff.mpr shown]
        rfl

/-- What can be shown has a text to be read by. -/
theorem exists_shown
    {d : Datum}
    (showable : d.IsShowable) :
    ∃ t, Failure.shown d = .ok t := by
  obtain ⟨t, shown⟩ := showable.exists_shown
  exact ⟨t, shown_eq_ok_iff.mpr shown⟩

/-- Of what can be shown only an error member with an infinite code is not read. -/
theorem ofReply_eq_error_iff
    {failure : Failure}
    (showable : member.IsShowable) :
    ofReply member method requestId = .error failure ↔
      failure = .misuse .tooLarge ∧ HasInfiniteCode member := by
  by_cases record : ∃ entries, member = .record entries
  · obtain ⟨entries, rfl⟩ := record
    have messageRead : ∃ t, readMessage (Entries.get? "message" entries) = .ok t := by
      cases found : Entries.get? "message" entries with
      | none => exact ⟨_, rfl⟩
      | some message => exact exists_shown (showable.get? found)
    obtain ⟨message, messageRead⟩ := messageRead
    have codeDecides : ofReply (.record entries) method requestId = .error failure ↔
        readCode (Entries.get? "code" entries) = .error failure := by
      rw [ofReply_record, messageRead]
      cases readCode (Entries.get? "code" entries) <;> simp [bind, Except.bind]
    simp [codeDecides, readCode_eq_error_iff, HasInfiniteCode]
  · have notRecord := not_exists.mp record
    obtain ⟨t, shown⟩ := exists_shown showable
    rw [ofReply_of_ne_record notRecord, shown]
    constructor
    · intro fails
      cases fails
    · rintro ⟨-, entries, -, rfl, -⟩
      exact absurd rfl (notRecord entries)

/-- What can be shown is read, unless it has an infinite code. -/
theorem exists_isReadAs_iff
    (showable : member.IsShowable) :
    (∃ error, IsReadAs method requestId member error) ↔ ¬ HasInfiniteCode member := by
  simp only [← ofReply_eq_ok_iff]
  rw [← not_iff_not, not_not, not_exists_ok_iff]
  simp only [ofReply_eq_error_iff showable, exists_eq_left]

end RemoteError
end ChainClient
