import Mathlib.Data.List.Nodup
import DeviceBroker.Client.Call

/-!
# What a client makes of a reply

A client calls one of forty-nine operations and may be sent any reply: the
answer to another operation, a fault with a value beside it, a success without
a value, a list that is longer than what was asked for. `Transport.Judged` says
of every call over every transport what it then returns. A value is returned
only if it is the value of the operation that was called, and no more of it than
was asked for; a fault is passed on whatever came with it; everything else is a
transport error, and one that is about the reply names the operation called.
-/

namespace DeviceBroker

variable {α : Type}

theorem Operation.mem_all (op : Operation) : op ∈ Operation.all :=
  List.mem_of_getElem? op.ofIndex?_index

/-- The name of an operation tells which one it is. -/
theorem Operation.method_injective : Function.Injective Operation.method := by
  have hnodup : (Operation.all.map Operation.method).Nodup := by decide +kernel
  exact fun a b h => List.inj_on_of_nodup_map hnodup a.mem_all b.mem_all h

/-- The first elements of a list, up to a count. -/
structure IsCut (count : Nat) (sent got : List α) : Prop where
  front : got <+: sent
  length : got.length = min count sent.length

theorem isCut_iff {count : Nat} {sent got : List α} :
    IsCut count sent got ↔ got = sent.take count := by
  constructor
  · rintro ⟨hfront, hlength⟩
    rw [List.prefix_iff_eq_take.mp hfront, hlength, List.take_eq_take_iff]
    omega
  · rintro rfl
    exact ⟨List.take_prefix _ _, List.length_take⟩

/-- Of the value that was sent, a client gets what the request asked for: a list up
to the number that the request names, and any other value as it is. -/
def Request.Portion : (request : Request) → (sent got : request.operation.Value) → Prop
  | .enumerate _ maxTokens, sent, got =>
    IsCut maxTokens.toNat sent.tokens got.tokens ∧ got.numMatches = sent.numMatches
  | .objectRead _ _ length _, sent, got => IsCut length.toNat sent got
  | .getMetricsInfo _ count, sent, got => IsCut count.toNat sent got
  | .getMetricsByIndex _ numbers, sent, got => IsCut numbers.length sent got
  | .getMetricsByName _ names, sent, got => IsCut names.length sent got
  | .getMetricThresholds _ count, sent, got => IsCut count.toNat sent got
  | .bufferRead _ _ _ count, sent, got => IsCut count.toNat sent got
  | _, sent, got => got = sent

theorem Request.portion_iff (request : Request) (sent got : request.operation.Value) :
    request.Portion sent got ↔ request.clamp sent = got := by
  cases request with
  | enumerate filters maxTokens =>
    obtain ⟨tokens, numMatches⟩ := sent
    obtain ⟨cut, kept⟩ := got
    show IsCut maxTokens.toNat tokens cut ∧ kept = numMatches ↔
      Enumeration.mk (tokens.take maxTokens.toNat) numMatches = ⟨cut, kept⟩
    simp only [isCut_iff, Enumeration.mk.injEq, eq_comm]
  | objectRead | getMetricsInfo | getMetricsByIndex | getMetricsByName | getMetricThresholds
  | bufferRead => exact isCut_iff.trans eq_comm
  | _ => exact eq_comm

/-! ## Replies -/

/-- What a reply can be for the call of an operation. -/
inductive Reply.Kind (op : Operation) : Reply → Prop
  | value (sent : op.Value) : Kind op (.answer op (.ok sent))
  | fault (fault : Fault) (stray : Option op.Value) : Kind op (.answer op ⟨.failure fault, stray⟩)
  | empty : Kind op (.answer op ⟨.success, none⟩)
  | other {answered : Operation} (outcome : Outcome answered.Value) (h : answered ≠ op) :
    Kind op (.answer answered outcome)
  | rejected (reason : String) : Kind op (.rejected reason)

theorem Reply.kind (op : Operation) (reply : Reply) : Kind op reply := by
  cases reply with
  | rejected reason => exact .rejected reason
  | answer answered outcome =>
    by_cases h : answered = op
    · subst h
      obtain ⟨_ | fault, _ | sent⟩ := outcome
      · exact .empty
      · exact .value sent
      · exact .fault fault none
      · exact .fault fault (some sent)
    · exact .other outcome h

namespace Request

variable (request : Request)

theorem conclude_value (sent : request.operation.Value) :
    request.conclude (.ok (.answer request.operation (.ok sent))) = .ok (request.clamp sent) := by
  rw [conclude, Reply.resultOf, Reply.outcome?_answer]
  rfl

theorem conclude_fault (fault : Fault) (stray : Option request.operation.Value) :
    request.conclude (.ok (.answer request.operation ⟨.failure fault, stray⟩)) =
      .error (.remote fault) := by
  rw [conclude, Reply.resultOf, Reply.outcome?_answer]
  rfl

theorem conclude_empty :
    request.conclude (.ok (.answer request.operation ⟨.success, none⟩)) =
      .error (.transport (.unexpectedReply request.operation.method
        "success without a value")) := by
  rw [conclude, Reply.resultOf, Reply.outcome?_answer]
  rfl

theorem conclude_other {answered : Operation} (outcome : Outcome answered.Value)
    (h : answered ≠ request.operation) :
    request.conclude (.ok (.answer answered outcome)) =
      .error (.transport (.unexpectedReply request.operation.method
        ("got " ++ answered.method ++ " reply"))) := by
  rw [conclude, Reply.resultOf, Reply.outcome?_answer_of_ne outcome h]
  rfl

theorem conclude_eq_ok_iff (answer : Except TransportError Reply)
    (got : request.operation.Value) :
    request.conclude answer = .ok got ↔
      ∃ sent, answer = .ok (.answer request.operation (.ok sent)) ∧ request.Portion sent got := by
  constructor
  · intro hv
    cases answer with
    | error e => cases hv
    | ok reply =>
      cases reply.kind request.operation with
      | value sent =>
        rw [conclude_value] at hv
        exact ⟨sent, rfl, (request.portion_iff sent got).mpr (Except.ok.inj hv)⟩
      | fault fault stray => rw [conclude_fault] at hv; cases hv
      | empty => rw [conclude_empty] at hv; cases hv
      | other outcome h => rw [conclude_other _ outcome h] at hv; cases hv
      | rejected reason => cases hv
  · rintro ⟨sent, rfl, hp⟩
    rw [conclude_value, (request.portion_iff sent got).mp hp]

theorem conclude_eq_remote_iff (answer : Except TransportError Reply) (fault : Fault) :
    request.conclude answer = .error (.remote fault) ↔
      ∃ stray, answer = .ok (.answer request.operation ⟨.failure fault, stray⟩) := by
  constructor
  · intro hv
    cases answer with
    | error e => cases hv
    | ok reply =>
      cases reply.kind request.operation with
      | value sent => rw [conclude_value] at hv; cases hv
      | fault found stray =>
        rw [conclude_fault] at hv
        obtain rfl := CallError.remote.inj (Except.error.inj hv)
        exact ⟨stray, rfl⟩
      | empty => rw [conclude_empty] at hv; cases hv
      | other outcome h => rw [conclude_other _ outcome h] at hv; cases hv
      | rejected reason => cases hv
  · rintro ⟨stray, rfl⟩
    exact request.conclude_fault fault stray

/-- A complaint about a reply is about the operation that was called. -/
theorem eq_operation_of_conclude {reply : Reply} {op : Operation} {detail : String}
    (hv : request.conclude (.ok reply) =
      .error (.transport (.unexpectedReply op.method detail))) : op = request.operation := by
  have hname {e : TransportError} (he : (Except.error (.transport e) :
      Except CallError request.operation.Value) =
        .error (.transport (.unexpectedReply op.method detail))) :
      e = .unexpectedReply op.method detail :=
    CallError.transport.inj (Except.error.inj he)
  cases reply.kind request.operation with
  | value sent => rw [conclude_value] at hv; cases hv
  | fault fault stray => rw [conclude_fault] at hv; cases hv
  | empty =>
    rw [conclude_empty] at hv
    exact Operation.method_injective (TransportError.unexpectedReply.inj (hname hv)).1.symm
  | other outcome h =>
    rw [conclude_other _ outcome h] at hv
    exact Operation.method_injective (TransportError.unexpectedReply.inj (hname hv)).1.symm
  | rejected reason => cases hname hv

end Request

/-! ## Calls -/

/-- What a call of a request may return for what a transport has brought back. -/
structure Request.Judged (request : Request) (answer : Except TransportError Reply)
    (result : Except CallError request.operation.Value) : Prop where
  /-- A value is returned exactly if the operation succeeded with one. -/
  ok_iff : ∀ got, result = .ok got ↔
    ∃ sent, answer = .ok (.answer request.operation (.ok sent)) ∧ request.Portion sent got
  /-- A fault is reported exactly if the operation failed with it. -/
  remote_iff : ∀ fault, result = .error (.remote fault) ↔
    ∃ stray, answer = .ok (.answer request.operation ⟨.failure fault, stray⟩)
  rejected : ∀ reason, answer = .ok (.rejected reason) →
    result = .error (.transport (.rejected reason))
  other : ∀ answered outcome, answer = .ok (.answer answered outcome) →
    answered ≠ request.operation →
    result = .error (.transport (.unexpectedReply request.operation.method
      ("got " ++ answered.method ++ " reply")))
  empty : answer = .ok (.answer request.operation ⟨.success, none⟩) →
    result = .error (.transport (.unexpectedReply request.operation.method
      "success without a value"))
  unanswered : ∀ e, answer = .error e → result = .error (.transport e)
  /-- The name in a complaint about a reply is that of the operation called and of no other. -/
  named : ∀ reply op detail, answer = .ok reply →
    result = .error (.transport (.unexpectedReply op.method detail)) → op = request.operation

/-- Every call over every transport is judged by its own operation and arguments. -/
theorem Transport.judged {σ : Type} (t : Transport σ) (call : ClientCall) (s : σ) :
    call.request.Judged (t.roundTrip call.request s).1 (t.call call s).1 := by
  change call.request.Judged _ (call.request.conclude (t.roundTrip call.request s).1)
  generalize (t.roundTrip call.request s).1 = answer
  exact {
    ok_iff := call.request.conclude_eq_ok_iff answer
    remote_iff := call.request.conclude_eq_remote_iff answer
    rejected := fun reason h => h ▸ rfl
    other := fun answered outcome h hne => h ▸ call.request.conclude_other outcome hne
    empty := fun h => h ▸ call.request.conclude_empty
    unanswered := fun e h => h ▸ rfl
    named := fun reply op detail h hv => call.request.eq_operation_of_conclude (h ▸ hv) }

end DeviceBroker
