import DeviceBroker.Proofs.Client.Moves

/-!
# The course of a client

What a client shows of itself are its actions. They form a path through a few
stands: no stream is kept, one is being dialed, one is kept, a request is out on
it, or it was given up and the call is about to fail. `Next` says which action
can follow at a stand and which command it takes up, and `Path` strings actions
together, so that a course can be cut between any two of them. That a call which
fails leaves no stream, that a call which succeeds leaves the one it was asked
on, that streams have ever greater numbers and that calls end in the order in
which they were issued can all be read off a path.
-/

namespace DeviceBroker

/-- Where a client stands. -/
inductive Stand where
  /-- No stream is kept; so many there have been. -/
  | vacant (streams : Nat)
  /-- A stream is being dialed for a call. -/
  | dialing (streams : Nat) (id : Uuid) (request : Request)
  /-- A stream is kept, and nothing is asked on it. -/
  | kept (number : Nat)
  /-- The request of a call is out on a stream. -/
  | asking (number : Nat) (id : Uuid)
  /-- The stream of a call was given up, and the call is about to fail. -/
  | failing (streams : Nat) (id : Uuid)

namespace Stand

/-- What a client does next, and how that changes where it stands and the commands
that it has not taken up. -/
inductive Next (maxFrameBytes : UInt64) :
    Stand → List Command → ConnectionAction → Stand → List Command → Prop
  | hangUp {n : Nat} {rest : List Command} :
    Next maxFrameBytes (.kept n) (.disconnect :: rest) (.abandon n) (.vacant (n + 1)) rest
  | dial {k : Nat} {id : Uuid} {request : Request} {rest : List Command} :
    Next maxFrameBytes (.vacant k) (.call id request :: rest) .dial (.dialing k id request) rest
  | refuse {k : Nat} {id : Uuid} {request : Request} {e : TransportError} {rest : List Command}
    (poisons : e.poisons = true) :
    Next maxFrameBytes (.dialing k id request) rest (.finish id (.error e)) (.vacant k) rest
  | askFirst {k : Nat} {id : Uuid} {request : Request} {bytes : List UInt8} {rest : List Command}
    (frame : requestFrame maxFrameBytes id request = .ok bytes) :
    Next maxFrameBytes (.dialing k id request) rest (.send k bytes) (.asking k id) rest
  | dropFirst {k : Nat} {id : Uuid} {request : Request} {rest : List Command} :
    Next maxFrameBytes (.dialing k id request) rest (.abandon k) (.failing (k + 1) id) rest
  | ask {n : Nat} {id : Uuid} {request : Request} {bytes : List UInt8} {rest : List Command}
    (frame : requestFrame maxFrameBytes id request = .ok bytes) :
    Next maxFrameBytes (.kept n) (.call id request :: rest) (.send n bytes) (.asking n id) rest
  | drop {n : Nat} {id : Uuid} {request : Request} {rest : List Command} :
    Next maxFrameBytes (.kept n) (.call id request :: rest) (.abandon n) (.failing (n + 1) id) rest
  | answer {n : Nat} {id : Uuid} {reply : Reply} {rest : List Command} :
    Next maxFrameBytes (.asking n id) rest (.finish id (.ok reply)) (.kept n) rest
  | lose {n : Nat} {id : Uuid} {rest : List Command} :
    Next maxFrameBytes (.asking n id) rest (.abandon n) (.failing (n + 1) id) rest
  | fail {k : Nat} {id : Uuid} {e : TransportError} {rest : List Command}
    (poisons : e.poisons = true) :
    Next maxFrameBytes (.failing k id) rest (.finish id (.error e)) (.vacant k) rest

/-- A course from one stand to another, by actions and with commands left. -/
inductive Path (maxFrameBytes : UInt64) :
    Stand → List Command → List ConnectionAction → Stand → List Command → Prop
  | nil {s : Stand} {commands : List Command} : Path maxFrameBytes s commands [] s commands
  /-- Without a stream there is nothing to hang up. -/
  | pass {k : Nat} {rest left : List Command} {actions : List ConnectionAction} {t : Stand} :
    Path maxFrameBytes (.vacant k) rest actions t left →
    Path maxFrameBytes (.vacant k) (.disconnect :: rest) actions t left
  | cons {s mid t : Stand} {commands rest left : List Command} {action : ConnectionAction}
    {actions : List ConnectionAction} :
    Next maxFrameBytes s commands action mid rest → Path maxFrameBytes mid rest actions t left →
    Path maxFrameBytes s commands (action :: actions) t left

variable {maxFrameBytes : UInt64} {s mid t : Stand} {commands rest left : List Command}
  {action : ConnectionAction} {actions more : List ConnectionAction}

theorem Next.path (h : Next maxFrameBytes s commands action t left) :
    Path maxFrameBytes s commands [action] t left :=
  .cons h .nil

theorem Path.append (hfirst : Path maxFrameBytes s commands actions mid rest)
    (hmore : Path maxFrameBytes mid rest more t left) :
    Path maxFrameBytes s commands (actions ++ more) t left := by
  induction hfirst with
  | nil => exact hmore
  | pass _ ih => exact .pass (ih hmore)
  | cons next _ ih => exact .cons next (ih hmore)

/-- A course can be cut between any two actions. -/
theorem Path.split (h : Path maxFrameBytes s commands (actions ++ more) t left) :
    ∃ mid rest, Path maxFrameBytes s commands actions mid rest ∧
      Path maxFrameBytes mid rest more t left := by
  generalize hall : actions ++ more = all at h
  induction h generalizing actions with
  | nil =>
    obtain ⟨rfl, rfl⟩ := List.append_eq_nil_iff.mp hall
    exact ⟨_, _, .nil, .nil⟩
  | pass path ih =>
    obtain ⟨mid, rest, hfirst, hmore⟩ := ih hall
    exact ⟨mid, rest, .pass hfirst, hmore⟩
  | cons next path ih =>
    cases actions with
    | nil =>
      obtain rfl : more = _ := hall
      exact ⟨_, _, .nil, .cons next path⟩
    | cons action actions =>
      obtain ⟨rfl, htail⟩ := List.cons.inj hall
      obtain ⟨mid, rest, hfirst, hmore⟩ := ih htail
      exact ⟨mid, rest, .cons next hfirst, hmore⟩

/-- The next action of a course, once the commands without effect are passed. -/
theorem Path.head (h : Path maxFrameBytes s commands (action :: actions) t left) :
    ∃ commands' mid rest, Path maxFrameBytes s commands [] s commands' ∧
      Next maxFrameBytes s commands' action mid rest ∧
      Path maxFrameBytes mid rest actions t left := by
  generalize hall : action :: actions = all at h
  induction h with
  | nil => cases hall
  | pass _ ih =>
    obtain ⟨commands', mid, rest, hpass, hnext, hmore⟩ := ih hall
    exact ⟨commands', mid, rest, .pass hpass, hnext, hmore⟩
  | cons next path _ =>
    obtain ⟨rfl, rfl⟩ := List.cons.inj hall
    exact ⟨_, _, _, .nil, next, path⟩

/-- Commands that are issued later wait behind the others. -/
theorem Next.later (h : Next maxFrameBytes s commands action t left) (later : List Command) :
    Next maxFrameBytes s (commands ++ later) action t (left ++ later) := by
  cases h with
  | hangUp => exact .hangUp
  | dial => exact .dial
  | refuse poisons => exact .refuse poisons
  | askFirst frame => exact .askFirst frame
  | dropFirst => exact .dropFirst
  | ask frame => exact .ask frame
  | drop => exact .drop
  | answer => exact .answer
  | lose => exact .lose
  | fail poisons => exact .fail poisons

theorem Path.later (h : Path maxFrameBytes s commands actions t left) (later : List Command) :
    Path maxFrameBytes s (commands ++ later) actions t (left ++ later) := by
  induction h with
  | nil => exact .nil
  | pass _ ih => exact .pass ih
  | cons next _ ih => exact .cons (next.later later) ih

/-! ## What a course says -/

/-- The least number that a stream may have from a stand on. -/
def least : Stand → Nat
  | .vacant streams => streams
  | .dialing streams _ _ => streams
  | .kept number => number
  | .asking number _ => number
  | .failing streams _ => streams

/-- How many streams there have been at a stand. -/
def streams : Stand → Nat
  | .vacant streams => streams
  | .dialing streams _ _ => streams
  | .kept number => number + 1
  | .asking number _ => number + 1
  | .failing streams _ => streams

end Stand

/-- The stream that an action is about. -/
def ConnectionAction.stream? : ConnectionAction → Option Nat
  | .send number _ => some number
  | .abandon number => some number
  | _ => none

namespace Stand

variable {maxFrameBytes : UInt64} {s mid t : Stand} {commands rest left : List Command}
  {action : ConnectionAction} {actions : List ConnectionAction}

theorem Next.numbers (h : Next maxFrameBytes s commands action t left) :
    s.least ≤ t.least ∧ s.streams ≤ t.streams ∧
      ∀ number, action.stream? = some number → s.least ≤ number ∧ number < t.streams := by
  cases h
  all_goals
    refine ⟨by dsimp only [least]; omega, by dsimp only [Stand.streams]; omega, ?_⟩
    intro number hs
    cases hs
  all_goals
    dsimp only [least, Stand.streams]
    omega

/-- From a stand on, only streams from its least number on are used, and only
streams that there have been by the end. -/
theorem Path.numbers (h : Path maxFrameBytes s commands actions t left) :
    s.least ≤ t.least ∧ s.streams ≤ t.streams ∧
      ∀ action ∈ actions, ∀ number, action.stream? = some number →
        s.least ≤ number ∧ number < t.streams := by
  induction h with
  | nil => exact ⟨Nat.le_refl _, Nat.le_refl _, fun _ h => absurd h List.not_mem_nil⟩
  | pass _ ih => exact ih
  | cons next _ ih =>
    obtain ⟨hleast, hstreams, hnumber⟩ := next.numbers
    obtain ⟨ihleast, ihstreams, ihnumber⟩ := ih
    refine ⟨Nat.le_trans hleast ihleast, Nat.le_trans hstreams ihstreams,
      fun action hmem number hs => ?_⟩
    rcases List.mem_cons.mp hmem with rfl | hmem
    · exact ⟨(hnumber number hs).1, Nat.lt_of_lt_of_le (hnumber number hs).2 ihstreams⟩
    · have hlater := ihnumber action hmem number hs
      exact ⟨Nat.le_trans hleast hlater.1, hlater.2⟩

/-- The calls among some commands. -/
def calls (commands : List Command) : List Uuid :=
  commands.filterMap fun
    | .call id _ => some id
    | .disconnect => none

/-- The calls that have ended, in the order in which they did. -/
def ended (actions : List ConnectionAction) : List Uuid :=
  actions.filterMap fun
    | .finish id _ => some id
    | _ => none

/-- The call that is under way at a stand. -/
def busy : Stand → List Uuid
  | .vacant _ => []
  | .dialing _ id _ => [id]
  | .kept _ => []
  | .asking _ id => [id]
  | .failing _ id => [id]

/-- The calls end in the order in which they were issued, and none is lost: what
has not ended is under way or waits. -/
theorem Path.ended_append (h : Path maxFrameBytes s commands actions t left) :
    ended actions ++ t.busy ++ calls left = s.busy ++ calls commands := by
  induction h with
  | nil => rfl
  | pass _ ih => exact ih
  | cons next _ ih =>
    cases next with
    | hangUp | dial | askFirst | dropFirst | ask | drop | lose => exact ih
    | refuse | answer | fail => exact congrArg (List.cons _) ih

/-- Commands are taken up in order. -/
theorem Path.suffix (h : Path maxFrameBytes s commands actions t left) : left <:+ commands := by
  induction h with
  | nil => exact List.suffix_refl _
  | pass _ ih => exact ih.trans (List.suffix_cons _ _)
  | cons next _ ih =>
    cases next with
    | hangUp | dial | ask | drop => exact ih.trans (List.suffix_cons _ _)
    | refuse | askFirst | dropFirst | answer | lose | fail => exact ih

/-- A stream that was given up is not used again. -/
theorem Path.after_abandon {n : Nat}
    (h : Path maxFrameBytes s commands (.abandon n :: actions) t left) :
    n < t.least ∧ ∀ action ∈ actions, action.stream? ≠ some n := by
  obtain ⟨_, mid, _, -, hnext, hmore⟩ := h.head
  have hmid : n < mid.least := by cases hnext <;> exact Nat.lt_succ_self _
  obtain ⟨hleast, -, hnumber⟩ := hmore.numbers
  refine ⟨Nat.lt_of_lt_of_le hmid hleast, fun action hmem hs => ?_⟩
  have hge := (hnumber action hmem n hs).1
  omega

/-- The number of a stream that was dialed is the number of streams there have been. -/
theorem Path.after_dial {n : Nat} {bytes : List UInt8}
    (h : Path maxFrameBytes s commands (.dial :: .send n bytes :: actions) t left) :
    s = .vacant n := by
  obtain ⟨_, mid, _, -, hdial, hmore⟩ := h.head
  obtain ⟨_, _, _, -, hsend, -⟩ := hmore.head
  cases hdial
  cases hsend
  rfl

/-- After a call has failed no stream is kept. -/
theorem Path.after_error {id : Uuid} {e : TransportError}
    (h : Path maxFrameBytes s commands (.finish id (.error e) :: actions) t left) :
    e.poisons = true ∧ ∃ k rest, Path maxFrameBytes (.vacant k) rest actions t left := by
  obtain ⟨commands', mid, rest, -, hnext, hmore⟩ := h.head
  cases hnext with
  | refuse poisons => exact ⟨poisons, _, _, hmore⟩
  | fail poisons => exact ⟨poisons, _, _, hmore⟩

/-- Without a stream, the next thing that a client does is to dial one. -/
theorem Path.head_of_vacant {k : Nat}
    (h : Path maxFrameBytes (.vacant k) commands (action :: actions) t left) : action = .dial := by
  obtain ⟨commands', mid, rest, -, hnext, -⟩ := h.head
  cases hnext
  rfl

theorem Path.eq_of_nil (h : Path maxFrameBytes s commands [] t left) : t = s := by
  generalize ha : ([] : List ConnectionAction) = actions at h
  induction h with
  | nil => rfl
  | pass _ ih => exact ih ha
  | cons => cases ha

/-- A call that succeeds leaves the stream that it was asked on. -/
theorem Path.after_ok {id : Uuid} {reply : Reply}
    (h : Path maxFrameBytes s commands (.finish id (.ok reply) :: actions) t left) :
    ∃ n, s = .asking n id ∧ Path maxFrameBytes (.kept n) commands actions t left := by
  obtain ⟨_, _, _, -, hanswer, -⟩ := h.head
  cases hanswer
  cases h with
  | cons hnext hmore =>
    cases hnext
    exact ⟨_, rfl, hmore⟩

/-- A request is out only after it was sent. -/
theorem Path.sent {n k : Nat} {id : Uuid}
    (h : Path maxFrameBytes (.vacant k) commands actions (.asking n id) left) :
    ∃ before bytes, actions = before ++ [.send n bytes] := by
  rcases List.eq_nil_or_concat actions with rfl | ⟨before, action, rfl⟩
  · cases h.eq_of_nil
  · rw [List.concat_eq_append] at h ⊢
    obtain ⟨mid, rest, -, hlast⟩ := h.split
    obtain ⟨_, last, _, -, hnext, hnil⟩ := hlast.head
    cases hnext with
    | askFirst | ask =>
      cases hnil
      exact ⟨before, _, rfl⟩
    | hangUp | refuse | fail => cases hnil.eq_of_nil
    | dial | dropFirst | drop | answer | lose => cases hnil

/-- Between two requests that go out a call ends. -/
theorem Path.ended_between {n m : Nat} {bytes bytes' : List UInt8}
    {between later : List ConnectionAction}
    (h : Path maxFrameBytes s commands
      (.send n bytes :: (between ++ .send m bytes' :: later)) t left) :
    ∃ id result, ConnectionAction.finish id result ∈ between := by
  obtain ⟨_, mid, rest, -, hsend, hmore⟩ := h.head
  obtain ⟨id, rfl⟩ : ∃ id, mid = .asking n id := by
    cases hsend with
    | askFirst => exact ⟨_, rfl⟩
    | ask => exact ⟨_, rfl⟩
  cases between with
  | nil =>
    obtain ⟨_, _, _, -, hnext, -⟩ := hmore.head
    cases hnext
  | cons action between =>
    obtain ⟨_, _, _, -, hnext, hrest⟩ := hmore.head
    cases hnext with
    | answer => exact ⟨_, _, List.mem_cons_self⟩
    | lose =>
      cases between with
      | nil =>
        obtain ⟨_, _, _, -, hnext, -⟩ := hrest.head
        cases hnext
      | cons action between =>
        obtain ⟨_, _, _, -, hnext, -⟩ := hrest.head
        cases hnext
        exact ⟨_, _, List.mem_cons_of_mem _ List.mem_cons_self⟩

/-- A kept stream is used by the next call, unless a disconnect comes first or the
call fails because its request cannot be written. -/
theorem Path.head_of_kept {n : Nat}
    (h : Path maxFrameBytes (.kept n) commands (action :: actions) t left) :
    (∃ id request rest bytes, commands = .call id request :: rest ∧ action = .send n bytes) ∨
    (∃ rest, commands = .disconnect :: rest ∧ action = .abandon n) ∨
    ∃ id request rest, commands = .call id request :: rest ∧ action = .abandon n ∧
      ∀ next more, actions = next :: more → ∃ e, next = .finish id (.error e) := by
  cases h with
  | cons hnext hmore =>
    cases hnext with
    | hangUp => exact .inr (.inl ⟨_, rfl, rfl⟩)
    | ask => exact .inl ⟨_, _, _, _, rfl, rfl⟩
    | drop =>
      refine .inr (.inr ⟨_, _, _, rfl, rfl, fun next more ha => ?_⟩)
      subst ha
      obtain ⟨_, _, _, -, hnext, -⟩ := hmore.head
      cases hnext
      exact ⟨_, rfl⟩

end Stand

end DeviceBroker
