import ChainClient.Proofs.Rpc.Calls
import Mathlib.Data.List.Induction

/-!
# Replies matched to requests

The items of a reply to a batch find their requests by their identifiers, in whatever order they
come. Of several items for one request the last counts. The requests have the results that these
items bring, or fail as the first of them for which there is none.
-/

namespace ChainClient

/-! ## Equal numbers -/

namespace Datum

/-- How many units of the smallest binary64 number a finite number is. -/
def units? : Datum → Option Int
  | float x => x.units?
  | d => d.integer?.map fun n => n * Binary64.unitsPerOne

theorem unitsPerOne_cancel
    {m n : Int} :
    m * Binary64.unitsPerOne = n * Binary64.unitsPerOne ↔ m = n := by
  have shifted : ∀ places : Nat, 1 <<< places ≠ 0 := fun places => by
    rw [Nat.one_shiftLeft]
    exact (Nat.two_pow_pos places).ne'
  exact Int.mul_eq_mul_right_iff (Int.natCast_ne_zero.mpr (shifted 1074))

/-- The data that are a count of units: binary64 numbers, integers and truth values. -/
inductive Counts : Datum → Int → Prop
  | float
      {x : Binary64}
      {count : Int} :
      x.units? = some count →
      Counts (.float x) count
  | int
      (n : Int) :
      Counts (.int n) (n * Binary64.unitsPerOne)
  | bool
      (value : Bool) :
      Counts (.bool value) ((if value then 1 else 0) * Binary64.unitsPerOne)

theorem units?_eq_some_iff
    {d : Datum}
    {count : Int} :
    d.units? = some count ↔ Counts d count := by
  constructor
  · intro counted
    cases d with
    | float x => exact .float counted
    | int n =>
        cases counted
        exact .int n
    | bool value =>
        cases counted
        exact .bool value
    | null | text _ | bytes _ | list _ | record _ => cases counted
  · intro counts
    cases counts with
    | float counted => exact counted
    | int _ | bool _ => rfl

theorem binary64_equals_iff
    {x y : Binary64}
    {m n : Int}
    (first : x.units? = some m)
    (second : y.units? = some n) :
    x.equals y = true ↔ m = n := by
  unfold Binary64.equals
  split
  · cases first
  · rw [first, second]
    exact beq_iff_eq

/-- Finite numbers are equal exactly if they are so many units. -/
theorem equals_iff_of_counts
    {a b : Datum}
    {m n : Int}
    (first : Counts a m)
    (second : Counts b n) :
    a.equals b = true ↔ m = n := by
  cases first with
  | float xUnits =>
      cases second with
      | float yUnits => simp [equals, equalsAtom, binary64_equals_iff xUnits yUnits]
      | int _ | bool _ => simp [equals, equalsAtom, integer?, Binary64.equalsInt, xUnits]
  | int _ | bool _ =>
      cases second with
      | float yUnits =>
          refine Iff.trans ?_ eq_comm
          simp [equals, equalsAtom, integer?, Binary64.equalsInt, yUnits]
      | int _ | bool _ =>
          rw [unitsPerOne_cancel]
          simp [equals, equalsAtom, integer?]

/-- What is equal to an integer is a finite number of so many units. -/
theorem equals_int_iff
    {d : Datum}
    {n : Int} :
    d.equals (int n) = true ↔ Counts d (n * Binary64.unitsPerOne) := by
  rw [← units?_eq_some_iff]
  cases counted : d.units? with
  | some count =>
      rw [equals_iff_of_counts (units?_eq_some_iff.mp counted) (.int n), Option.some.injEq]
  | none =>
      cases d with
      | bool _ | int _ => cases counted
      | float x =>
          have infinite : x.units? = none := counted
          simp [equals, equalsAtom, integer?, Binary64.equalsInt, infinite]
      | null | text _ | bytes _ | list _ | record _ => simp [equals, equalsAtom, integer?]

end Datum

namespace Rpc

/-! ## The last item for a request -/

section

variable
    {id : Nat}
    {entries : Entries}
    {items : List Entries}
    {found : Option Entries}

theorem isFor_iff :
    IsFor id entries ↔ Datum.Counts (entries.getD "id") ((id : Int) * Binary64.unitsPerOne) :=
  Datum.equals_int_iff

/-- An item is for one identifier at most. -/
theorem IsFor.unique
    {other : Nat}
    (isFor : IsFor id entries)
    (again : IsFor other entries) :
    id = other := by
  have first := Datum.units?_eq_some_iff.mpr (isFor_iff.mp isFor)
  have second := Datum.units?_eq_some_iff.mpr (isFor_iff.mp again)
  rw [first, Option.some.injEq, Datum.unitsPerOne_cancel] at second
  exact Int.ofNat_inj.mp second

/-- What stands last for an identifier: nothing if no item is for it, else the last that is. -/
inductive LastFor (id : Nat) (items : List Entries) : Option Entries → Prop
  | missing :
      (∀ entries ∈ items, ¬ IsFor id entries) →
      LastFor id items none
  | last
      {before after : List Entries}
      {entries : Entries} :
      items = before ++ entries :: after →
      IsFor id entries →
      (∀ other ∈ after, ¬ IsFor id other) →
      LastFor id items (some entries)

/-- The last item is the first from the end. -/
theorem lastFor_iff :
    LastFor id items found ↔ items.reverse.find? (fun entries => IsFor id entries) = found := by
  constructor
  · intro stands
    cases stands with
    | missing none =>
        rw [List.find?_eq_none]
        intro entries present
        simpa using none entries (List.mem_reverse.mp present)
    | @last before after entries split isFor behind =>
        rw [List.find?_eq_some_iff_append]
        refine ⟨by simpa using isFor, after.reverse, before.reverse, by simp [split], ?_⟩
        intro other present
        simpa using behind other (List.mem_reverse.mp present)
  · intro first
    cases found with
    | none =>
        refine .missing fun entries present => ?_
        simpa using List.find?_eq_none.mp first entries (List.mem_reverse.mpr present)
    | some entries =>
        obtain ⟨isFor, after, before, split, behind⟩ := List.find?_eq_some_iff_append.mp first
        have reversed : items = before.reverse ++ entries :: after.reverse := by
          rw [← List.reverse_reverse items, split]
          simp
        refine .last reversed (by simpa using isFor) fun other present => ?_
        simpa using behind other (List.mem_reverse.mp present)

/-- Whether items stand in another order makes no difference if no two of them are for one
identifier. -/
theorem lastFor_of_perm
    {others : List Entries}
    (distinct : items.Pairwise fun first second => ∀ id, IsFor id first → ¬ IsFor id second)
    (perm : items.Perm others)
    (stands : LastFor id items found) :
    LastFor id others found := by
  cases stands with
  | missing none => exact .missing fun entries present => none entries (perm.mem_iff.mpr present)
  | @last before after entries split isFor behind =>
      have present : entries ∈ others := perm.mem_iff.mp (by simp [split])
      obtain ⟨before, after, rfl⟩ := List.append_of_mem present
      refine .last rfl isFor fun other present => ?_
      have symmetric : ∀ {first second : Entries}, (∀ id, IsFor id first → ¬ IsFor id second) →
          ∀ id, IsFor id second → ¬ IsFor id first :=
        fun apart id second first => apart id first second
      have apart := (perm.pairwise_iff symmetric).mp distinct
      exact List.rel_of_pairwise_cons (List.pairwise_append.mp apart).2.1 present id isFor

end

/-! ## Sorting the items -/

section

variable
    {requests : List Call}
    {request : Call}
    {status : Nat}
    {entries : Entries}
    {items : List Entries}

/-- What is equal to an integer is fit to be an identifier. -/
theorem isIdKind_of_counts
    {id : Datum}
    {count : Int}
    (counts : Datum.Counts id count) :
    isIdKind id = true := by
  cases counts <;> rfl

/-- An item for a request is put at the identifier of the request. -/
theorem classify_of_isFor
    (member : request ∈ requests)
    (isFor : IsFor request.id entries) :
    classify requests status (.record entries) = .ok (request.id, entries) := by
  have found : matchId? requests (entries.getD "id") = some request.id := by
    obtain ⟨first, same⟩ : ∃ first, requests.find? (fun request =>
        (entries.getD "id").equals (.int request.id)) = some first :=
      Option.isSome_iff_exists.mp (List.find?_isSome.mpr ⟨request, member, isFor⟩)
    have again : IsFor first.id entries := by
      have satisfies := List.find?_some same
      exact satisfies
    rw [matchId?, same, Option.map_some, again.unique isFor]
  unfold classify
  dsimp only
  rw [isIdKind_of_counts (isFor_iff.mp isFor), found]
  rfl

/-- Items that are for requests are sorted, and under each identifier stands its last item. -/
theorem exists_collect
    (belongs : ∀ entries ∈ items, ∃ request ∈ requests, IsFor request.id entries) :
    ∃ byId, collect requests status (items.map .record) = .ok byId ∧
      ∀ id found, LastFor id items found ↔ byId.lookup id = found := by
  suffices sorted : ∃ byId, collect requests status (items.map .record) = .ok byId ∧
      ∀ id, items.reverse.find? (fun entries => IsFor id entries) = byId.lookup id by
    obtain ⟨byId, collected, lasts⟩ := sorted
    exact ⟨byId, collected, fun id found => lasts id ▸ lastFor_iff⟩
  induction items using List.reverseRecOn with
  | nil => exact ⟨[], rfl, fun id => rfl⟩
  | append_singleton items entries inductionHypothesis =>
      rw [List.forall_mem_append, List.forall_mem_singleton] at belongs
      obtain ⟨before, request, member, isFor⟩ := belongs
      obtain ⟨byId, collected, lasts⟩ := inductionHypothesis before
      refine ⟨(request.id, entries) :: byId, ?_, ?_⟩
      · rw [collect] at collected ⊢
        rw [List.map_append, List.foldlM_append, collected, List.map_singleton]
        simp only [bind, Except.bind, List.foldlM, classify_of_isFor member isFor]
        rfl
      · intro id
        rw [List.reverse_append, List.reverse_singleton, List.singleton_append, List.find?_cons,
          List.lookup_cons, lasts]
        by_cases same : id = request.id
        · subst same
          simp [isFor]
        · have notFor : ¬ IsFor id entries := fun other => same (other.unique isFor)
          have differs : (id == request.id) = false := beq_false_of_ne same
          simp [notFor, differs]

end

/-! ## Results -/

/-- The items give the request this result: the last item for it answers it. -/
def Gives
    (items : List Entries)
    (request : Call)
    (result : Datum) : Prop :=
  ∃ entries, LastFor request.id items (some entries) ∧ Answers request.id entries result

/-- The failure of a request to which the items give no result: there is no item for it, or the last
one is no answer. -/
inductive FailsIn (items : List Entries) (status : Nat) (request : Call) : Failure → Prop
  | missing :
      LastFor request.id items none →
      FailsIn items status request (.transport ⟨Text.join ["missing result for id ",
        Decimal.ofNat request.id], request.method, .int request.id, .int status⟩)
  | unanswered
      {entries : Entries}
      {failure : Failure} :
      LastFor request.id items (some entries) →
      FailsBy request status entries failure →
      FailsIn items status request failure

section

variable
    {made : List Call}
    {request : Call}
    {status : Nat}
    {items : List Entries}
    {byId : ById}

theorem resultById_eq_ok_iff
    {result : Datum}
    (lasts : ∀ id found, LastFor id items found ↔ byId.lookup id = found) :
    resultById status byId request = .ok result ↔ Gives items request result := by
  unfold resultById Gives
  simp only [lasts]
  cases byId.lookup request.id with
  | none => simp
  | some entries => simp [resultOf_eq_ok_iff]

theorem resultById_eq_error_iff
    {failure : Failure}
    (showable : ∀ entries ∈ items, (Datum.record entries).IsShowable)
    (lasts : ∀ id found, LastFor id items found ↔ byId.lookup id = found) :
    resultById status byId request = .error failure ↔ FailsIn items status request failure := by
  unfold resultById
  cases stands : byId.lookup request.id with
  | none =>
      constructor
      · intro fails
        cases fails
        exact .missing ((lasts _ _).mpr stands)
      · intro fails
        cases fails with
        | missing _ => rfl
        | unanswered last _ =>
            rw [lasts, stands] at last
            cases last
  | some entries =>
      have last := (lasts _ _).mpr stands
      have present : entries ∈ items := by
        cases last with
        | last split _ _ => simp [split]
      dsimp only
      rw [resultOf_eq_error_iff (showable entries present)]
      constructor
      · exact .unanswered last
      · intro fails
        cases fails with
        | missing none =>
            rw [lasts, stands] at none
            cases none
        | unanswered other fails =>
            rw [lasts, stands] at other
            cases other
            exact fails

/-- The reply to a batch without an error status is a list of records, each of them for one of its
requests. -/
structure BringsItems (answer : Reply) (made : List Call) (items : List Entries) : Prop where
  below : answer.status < 400
  parsed : Json.parseBytes? answer.body = some (.list (items.map .record))
  belongs : ∀ entries ∈ items, ∃ request ∈ made, IsFor request.id entries

/-- The results that the reply to a batch brings. -/
def repliedResults
    (made : List Call)
    (reply : Except ExchangeFault Reply) : Outcome (List Datum) :=
  received batchSubject reply >>= fun (document, status) => resultsOfDocument made status document

variable {answer : Reply}

/-- The results of a batch are those of its requests, one by one. -/
theorem exists_repliedResults_eq
    (brings : BringsItems answer made items) :
    ∃ byId, repliedResults made (.ok answer) = made.mapM (resultById answer.status byId) ∧
      ∀ id found, LastFor id items found ↔ byId.lookup id = found := by
  obtain ⟨byId, collected, lasts⟩ : ∃ byId,
      collect made answer.status (items.map .record) = .ok byId ∧
        ∀ id found, LastFor id items found ↔ byId.lookup id = found :=
    exists_collect brings.belongs
  have found : received batchSubject (.ok answer) =
      .ok (.list (items.map .record), answer.status) :=
    received_eq_ok_iff.mpr ⟨answer, rfl, rfl, brings.parsed, .inl brings.below⟩
  refine ⟨byId, ?_, lasts⟩
  rw [repliedResults, found]
  change resultsOfDocument made answer.status (.list (items.map .record)) = _
  rw [resultsOfDocument, collected]
  rfl

/-- A batch brings the results that the items give to its requests. -/
theorem repliedResults_eq_ok_iff
    {results : List Datum}
    (brings : BringsItems answer made items) :
    repliedResults made (.ok answer) = .ok results ↔ List.Forall₂ (Gives items) made results := by
  obtain ⟨byId, same, lasts⟩ := exists_repliedResults_eq brings
  simp only [same, mapM_eq_ok_iff, resultById_eq_ok_iff lasts]

/-- A batch fails as the first of its requests to which the items give no result. -/
theorem repliedResults_eq_error_iff
    {failure : Failure}
    (brings : BringsItems answer made items) :
    repliedResults made (.ok answer) = .error failure ↔
      ∃ before request after, made = before ++ request :: after ∧
        (∀ earlier ∈ before, ∃ result, Gives items earlier result) ∧
        FailsIn items answer.status request failure := by
  obtain ⟨byId, same, lasts⟩ := exists_repliedResults_eq brings
  have showable : ∀ entries ∈ items, (Datum.record entries).IsShowable := by
    have all := Datum.isShowable_list_iff.mp (Json.isShowable_of_parseBytes brings.parsed)
    exact List.forall_mem_map.mp all
  simp only [same, mapM_eq_error_iff, resultById_eq_ok_iff lasts,
    resultById_eq_error_iff showable lasts]

/-- Items that are for different identifiers may come in any order. -/
theorem repliedResults_eq_of_perm
    {other : Reply}
    {permuted : List Entries}
    (brings : BringsItems answer made items)
    (distinct : items.Pairwise fun first second =>
      (first.getD "id").equals (second.getD "id") = false)
    (perm : items.Perm permuted)
    (parsed : Json.parseBytes? other.body = some (.list (permuted.map .record)))
    (sameStatus : other.status = answer.status) :
    repliedResults made (.ok other) = repliedResults made (.ok answer) := by
  have otherBrings : BringsItems other made permuted := {
    below := sameStatus ▸ brings.below
    parsed := parsed
    belongs := fun entries present => brings.belongs entries (perm.mem_iff.mpr present) }
  have apart : items.Pairwise fun first second => ∀ id, IsFor id first → ¬ IsFor id second := by
    refine distinct.imp fun differ id first second => ?_
    have equal := (Datum.equals_iff_of_counts (isFor_iff.mp first) (isFor_iff.mp second)).mpr rfl
    rw [differ] at equal
    cases equal
  obtain ⟨byId, same, lasts⟩ := exists_repliedResults_eq brings
  obtain ⟨otherById, otherSame, otherLasts⟩ := exists_repliedResults_eq otherBrings
  rw [same, otherSame, sameStatus]
  congr 1
  funext request
  unfold resultById
  have last := (lasts request.id _).mpr rfl
  rw [(otherLasts _ _).mp (lastFor_of_perm apart perm last)]

end

end Rpc
end ChainClient
