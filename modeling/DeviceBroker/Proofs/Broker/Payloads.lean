import DeviceBroker.Proofs.Broker.Deeds
import DeviceBroker.Proofs.Broker.Exchanges
import DeviceBroker.Proofs.Broker.History

/-!
# The payload limit

Four operations move bytes between a client and a device in one request, and
the broker holds the number of those bytes against its payload limit. A request
above the limit looks identifiers up at most and is refused, whatever other
requests do between its steps. What an answer carries is bounded by the limit
and by what was asked for.

The number that counts is the count that a request names. A write into a buffer
may carry more bytes than it counts: those are never looked at, and they are
not held against the limit either.
-/

namespace DeviceBroker

variable {cards : Nat} {α : Type}

/-- The bytes that a request counts as its payload. -/
def Request.payloadBytes : Request → Nat
  | .writeMmio512 _ _ _ values => values.length
  | .objectRead _ _ length _ => length.toNat
  | .bufferWrite _ _ _ _ count => count.toNat
  | .bufferRead _ _ _ count => count.toNat
  | _ => 0

/-- The request without the bytes that it carries but does not count. -/
def Request.trimmed : Request → Request
  | .bufferWrite handleId bufferId offset source count =>
    .bufferWrite handleId bufferId offset (source.take count.toNat) count
  | request => request

/-- The bytes that an answer carries as its payload. -/
def Reply.payload : Reply → List UInt8
  | .answer .objectRead outcome => outcome.value.getD []
  | .answer .bufferRead outcome => outcome.value.getD []
  | _ => []

/-- A program that may do anything accepts what holds of every end. -/
theorem Program.obeys_of_forall {accepts : List Deed → α → Prop} (p : Program α)
    (h : ∀ past value, accepts past value) (past : List Deed) :
    p.Obeys (fun _ _ => True) accepts past := by
  induction p generalizing past with
  | done value => exact h past value
  | act action rest ih => exact ⟨trivial, fun answer => ih answer _⟩

theorem Request.obeys_of_serve {permits : List Deed → Action → Prop}
    {accepts : List Deed → Reply → Prop} {limit : UInt64} {request : Request}
    (h : (request.serve limit).Obeys permits
      (fun past result => accepts past (.ofResult request.operation result)) []) :
    (request.program limit).Obeys permits accepts [] :=
  (Program.obeys_bind _ _).mpr h

/-! ## Refusing what is above the limit -/

/-- The service looks identifiers up at most, and it ends in `invalidParam`. -/
def Service.Declines (s : Service α) (past : List Deed) : Prop :=
  s.Obeys (fun _ action => ∃ cls id, action = .find cls id)
    (fun _ result => result = .error .invalidParam) past

namespace Service

variable {past : List Deed}

theorem declines_require_bind {condition : Bool} {next : Unit → Service α}
    (h : condition = false) : (require condition .invalidParam >>= next).Declines past := by
  subst h
  exact obeys_require_bind (fun _ => rfl) nofun

theorem declines_lookup_bind {cls : ResourceClass} {id : RemoteId} {next : cls.Entry → Service α}
    (h : ∀ entry past, (next entry).Declines past) : (lookup cls id >>= next).Declines past :=
  obeys_lookup_bind ⟨cls, id, rfl⟩ rfl fun entry => h entry _

end Service

open Service

theorem Request.declines_serve {limit : UInt64} {request : Request}
    (h : limit.toNat < request.payloadBytes) : (request.serve limit).Declines [] := by
  cases request with
  | writeMmio512 handleId region offset values =>
    exact declines_lookup_bind fun _ _ =>
      declines_require_bind (decide_eq_false (Nat.not_le_of_lt h))
  | objectRead objectId offset length flags =>
    exact declines_lookup_bind fun _ _ =>
      declines_require_bind (decide_eq_false (Nat.not_le_of_lt h))
  | bufferWrite | bufferRead =>
    exact declines_require_bind (decide_eq_false (Nat.not_le_of_lt h))
  | _ => exact absurd h (Nat.not_lt_zero _)

/-! ## What is not counted -/

theorem Request.program_trimmed (limit : UInt64) (request : Request) :
    request.trimmed.program limit = request.program limit := by
  cases request with
  | bufferWrite handleId bufferId offset source count =>
    have hlength : decide (count.toNat ≤ (source.take count.toNat).length) =
        decide (count.toNat ≤ source.length) := by
      rw [List.length_take]
      exact decide_eq_decide.mpr ⟨by omega, by omega⟩
    have htake : (source.take count.toNat).take count.toNat = source.take count.toNat := by
      rw [List.take_take, Nat.min_self]
    simp only [trimmed, program, serve, hlength]
    rw [htake]
  | _ => rfl

/-! ## What an answer carries -/

theorem Request.payload_le (limit : UInt64) (request : Request) :
    (request.program limit).Obeys (fun _ _ => True)
      (fun _ reply => reply.payload.length ≤ min limit.toNat request.payloadBytes) [] := by
  have hcut (bytes : List UInt8) {count : UInt64} (h : count ≤ limit) :
      (bytes.take count.toNat).length ≤ min limit.toNat count.toNat := by
    have hle : count.toNat ≤ limit.toNat := h
    rw [List.length_take]
    omega
  refine obeys_of_serve ?_
  cases request with
  | objectRead objectId offset length flags =>
    refine obeys_lookup_bind trivial (Nat.zero_le _) fun entry =>
      obeys_require_bind (fun _ => Nat.zero_le _) fun hl =>
        obeys_device_bind trivial (fun _ => Nat.zero_le _) fun bytes => ?_
    exact hcut bytes (of_decide_eq_true hl)
  | bufferRead handleId bufferId offset count =>
    refine obeys_require_bind (fun _ => Nat.zero_le _) fun hl =>
      obeys_bind (Program.obeys_of_forall _ (fun past result => ?_) [])
    cases result with
    | error fault => exact Nat.zero_le _
    | ok found =>
      exact obeys_device_bind trivial (fun _ => Nat.zero_le _) fun data =>
        hcut data.toList (of_decide_eq_true hl)
  | _ => exact Program.obeys_of_forall _ (fun _ _ => Nat.zero_le _) []

/-! ## The limit of a broker -/

/-- How a broker holds a request to its payload limit. -/
structure Broker.PayloadGuarded (b : Broker cards) (request : Request) : Prop where
  /-- Above the limit nothing is done. -/
  refused : b.payloadLimit.toNat < request.payloadBytes →
    b.handle request = (.answer request.operation (.error .invalidParam), b) ∧
      (request.program b.payloadLimit).calls b = []
  /-- That is so whatever else happens between the steps of the request. -/
  declined : b.payloadLimit.toNat < request.payloadBytes →
    (request.program b.payloadLimit).Obeys (fun _ action => ∃ cls id, action = .find cls id)
      (fun _ reply => reply = .answer request.operation (.error .invalidParam)) []
  /-- Bytes that are not counted make no difference. -/
  uncounted : request.trimmed.program b.payloadLimit = request.program b.payloadLimit
  /-- Whatever the driver answers, what goes back is bounded. -/
  bounded : (request.program b.payloadLimit).Obeys (fun _ _ => True)
    (fun _ reply => reply.payload.length ≤ min b.payloadLimit.toNat request.payloadBytes) []
  returned : (b.handle request).1.payload.length ≤ min b.payloadLimit.toNat request.payloadBytes

namespace Broker

/-- Every broker holds every request to its payload limit. -/
theorem payloadGuarded (b : Broker cards) (request : Request) : b.PayloadGuarded request := by
  have hdeclined : b.payloadLimit.toNat < request.payloadBytes →
      (request.program b.payloadLimit).Obeys (fun _ action => ∃ cls id, action = .find cls id)
        (fun _ reply => reply = .answer request.operation (.error .invalidParam)) [] :=
    fun h => Request.obeys_of_serve ((Request.declines_serve h).mono fun _ result hr =>
      congrArg (Reply.ofResult request.operation) hr)
  have hbounded := request.payload_le b.payloadLimit
  obtain ⟨-, hreturned, -⟩ :=
    hbounded.run_tracks (I := fun _ _ => True) (fun _ _ _ _ _ => trivial) (b := b) trivial
  refine ⟨fun h => ?_, hdeclined, request.program_trimmed _, hbounded, hreturned⟩
  -- A look-up leaves the broker as it is, so the whole program does.
  obtain ⟨-, hreply, hstays⟩ := (hdeclined h).run_tracks (I := fun _ b' => b' = b)
    (fun _ b' action ⟨cls, id, ha⟩ hb => by subst ha; exact hb) rfl
  exact ⟨Prod.ext hreply hstays, Program.calls_eq_nil hstays⟩

/-- A handle with a buffer of 64 bytes. -/
def buffered : List Event :=
  [.serve (.enumerate [] 2), .serve (.openHandle ⟨7, 2⟩ 0),
    .serve (.prepareBuffer ⟨7, 3⟩ 64 none 0)]

/-- Below a limit of 16 bytes a write that carries 32 bytes and counts 4 of them is granted. -/
theorem uncounted_surplus_granted :
    ((start (.seeded 7) (.start 1 fun _ => none) 16).after buffered).payloadLimit = 16 ∧
    (List.replicate 32 (1 : UInt8)).length = 32 ∧
    (((start (.seeded 7) (.start 1 fun _ => none) 16).after buffered).handle
      (.bufferWrite ⟨7, 3⟩ ⟨7, 4⟩ 0 (.replicate 32 1) 4)).1 = .ofResult .bufferWrite (.ok ()) :=
  ⟨rfl, rfl, rfl⟩

end Broker

end DeviceBroker
