import DeviceBroker.Proofs.Broker.Tokens
import DeviceBroker.Proofs.Simulator.Listing

/-!
# Stranded tokens

A listing has the driver hand out tokens before the broker has identifiers for
them, and so has a read of properties for the parent. The first token that no
identifier can be had for ends the request. A listing gives this one back, but
not those behind it; a read of properties gives nothing back. What is left is
stranded: live in the driver, and beyond the reach of every client.
-/

namespace DeviceBroker

open Service

variable {cards : Nat} {α : Type}

/-! ## What the driver hands out -/

/-- A request up to the point where the driver has handed out tokens: these tokens, in the
order in which they are interned. -/
def Request.handOut : Request → Service (List NativeToken)
  | .enumerate filters maxTokens => do
    let natives ← filters.mapM importFilter
    let listing ← device (.enumerate natives maxTokens)
    return (listing.tokens.take maxTokens.toNat).map NativeHeader.token
  | .getProperties tokenId => do
    let entry ← lookup .token tokenId
    let properties ← device (.getProperties entry.token)
    return properties.parent.toList
  | .updateProperties tokenId => do
    let entry ← lookup .token tokenId
    let properties ← device (.updateProperties entry.token)
    return properties.parent.toList
  | .getHandleProperties handleId => do
    let entry ← lookup .handle handleId
    let properties ← device (.getHandleProperties entry.handle)
    return properties.parent.toList
  | _ => return []

/-- Whether a request lists tokens or reads properties. -/
def Request.handsOut : Request → Bool
  | .enumerate _ _ | .getProperties _ | .updateProperties _ | .getHandleProperties _ => true
  | _ => false

/-- Whether a request gives a token back that no identifier can be had for. -/
def Request.givesBack : Request → Bool
  | .enumerate _ _ => true
  | _ => false

theorem Simulator.nodup_of_call_enumerate {s : Simulator cards}
    {filters : List (Properties NativeToken)} {maxTokens : UInt32} {listing : NativeListing}
    (h : (s.call (.enumerate filters maxTokens)).1 = .ok listing) :
    (listing.tokens.map NativeHeader.token).Nodup := by
  cases ha : s.armed (DeviceCall.enumerate filters maxTokens).kind with
  | some fault =>
    rw [call_of_armed ha] at h
    cases h
  | none =>
    rw [call_of_unarmed ha] at h
    obtain rfl := Except.ok.inj h
    exact s.nodup_tokens_enumerate filters maxTokens

theorem Holdings.token_foldl_track (h : Holdings) (tokens : List NativeToken)
    (token : NativeToken) :
    (tokens.foldl track h).token token = true ↔ h.token token = true ∨ token ∈ tokens := by
  induction tokens generalizing h with
  | nil => simp
  | cons first rest ih =>
    rw [List.foldl_cons, ih, List.mem_cons, ← or_assoc]
    refine or_congr_left ?_
    by_cases ht : token = first
    · simp [track, ht]
    · simp [track, ht, override_of_ne]

/-- The driver has handed out tokens, all of them distinct, and nothing else has happened that
matters for tokens. -/
structure Broker.HandedOut (b : Broker cards) (tokens : List NativeToken) (b' : Broker cards) :
    Prop where
  registry : b'.registry = b.registry
  armed : b'.device.armed .destroyToken = b.device.armed .destroyToken
  holdings : b'.device.holdings = tokens.foldl Holdings.track b.device.holdings
  nodup : tokens.Nodup

/-! ## Giving a token back -/

namespace Simulator

variable {s : Simulator cards} {token : NativeToken}

theorem destroyToken_eq_ok (h : s.tokens.contains token = true) :
    s.destroyToken token = .ok ((), { s with tokens := s.tokens.erase token }) := by
  obtain ⟨site, hsite⟩ := (s.tokens.contains_iff token).mp h
  simp only [destroyToken, siteOf, hsite]

/-- Giving a live token back makes it dead, and no other. -/
theorem token_call_destroyToken (h : s.tokens.contains token = true)
    (unarmed : s.armed .destroyToken = none) :
    (s.call (.destroyToken token)).2.holdings.token =
      override s.holdings.token token false := by
  have hcall : s.call (.destroyToken token) = _ := call_of_unarmed unarmed
  rw [hcall]
  change (s.commit (s.destroyToken token)).2.holdings.token = _
  rw [destroyToken_eq_ok h]
  exact congrArg Holdings.token (holdings_of_destroyToken (destroyToken_eq_ok h))

/-- The driver after a token was given back to it, or was not. -/
def takeBack (s : Simulator cards) (back : Bool) (token : NativeToken) : Simulator cards :=
  if back then (s.call (.destroyToken token)).2 else s

end Simulator

namespace Broker.HandedOut

variable {b b' : Broker cards} {tokens : List NativeToken}

theorem contains_iff (h : b.HandedOut tokens b') (token : NativeToken) :
    b'.device.tokens.contains token = true ↔
      b.device.tokens.contains token = true ∨ token ∈ tokens := by
  have hheld := congrArg (fun held => held.token token = true) h.holdings
  exact (iff_of_eq hheld).trans (b.device.holdings.token_foldl_track tokens token)

theorem contains_takeBack (h : b.HandedOut tokens b')
    (unarmed : b.device.armed .destroyToken = none) {rejected : NativeToken}
    (mem : rejected ∈ tokens) (back : Bool) (token : NativeToken) :
    (b'.device.takeBack back rejected).tokens.contains token = true ↔
      (b.device.tokens.contains token = true ∨ token ∈ tokens) ∧
        token ∉ if back then [rejected] else [] := by
  have hheld := h.contains_iff token
  cases back with
  | false => exact hheld.trans (by simp)
  | true =>
    have hlive := (h.contains_iff rejected).mpr (.inr mem)
    have hgiven := Simulator.token_call_destroyToken hlive (h.armed.trans unarmed)
    change (b'.device.call (.destroyToken rejected)).2.holdings.token token = true ↔ _
    rw [hgiven, if_pos rfl, List.mem_singleton]
    by_cases ht : token = rejected
    · simp [ht]
    · rw [override_of_ne _ _ ht]
      exact hheld.trans (by simp [ht])

end Broker.HandedOut

/-- What a service has handed out, which is nothing if it failed. -/
def Broker.HandsOut (b : Broker cards) (s : Service (List NativeToken)) : Prop :=
  b.HandedOut ((exec s b).1.toOption.getD []) (exec s b).2

namespace Service

variable {b : Broker cards}

theorem handedOut_nil (b : Broker cards) : b.HandedOut [] b where
  registry := rfl
  armed := rfl
  holdings := rfl
  nodup := List.nodup_nil

/-- A call hands out the tokens that the driver holds after it. -/
theorem handsOut_device {call : DeviceCall} (tokens : call.Value → List NativeToken)
    (hkind : CallKind.destroyToken ≠ call.kind)
    (hafter : ∀ value, (b.device.call call).1 = .ok value →
      b.device.holdings.Grants call value →
      b.device.holdings.after call value = (tokens value).foldl Holdings.track b.device.holdings ∧
        (tokens value).Nodup) :
    b.HandsOut (device call >>= fun value => pure (tokens value)) := by
  have harmed := b.device.armed_call_of_ne hkind
  unfold Broker.HandsOut
  cases he : exec (device call) b with
  | mk result b' =>
    have hb' : b'.device = (b.device.call call).2 := by
      rw [exec_device] at he
      rw [← (Prod.mk.inj he).2]
    cases result with
    | error fault =>
      obtain ⟨hr, hd⟩ := holdings_of_exec_error he
      rw [exec_bind_of_error _ he]
      exact ⟨hr, hb' ▸ harmed, hd, List.nodup_nil⟩
    | ok value =>
      obtain ⟨hr, hg, hd⟩ := holdings_of_exec_ok he
      have hvalue : (b.device.call call).1 = .ok value := (Prod.mk.inj he).1
      obtain ⟨htokens, hnodup⟩ := hafter value hvalue hg
      rw [exec_bind_of_ok _ he]
      exact ⟨hr, hb' ▸ harmed, hd.trans htokens, hnodup⟩

theorem handsOut_lookup_bind {cls : ResourceClass} {id : RemoteId}
    {next : cls.Entry → Service (List NativeToken)} (h : ∀ entry, b.HandsOut (next entry)) :
    b.HandsOut (lookup cls id >>= next) := by
  unfold Broker.HandsOut
  cases hf : (b.registry.map cls).find? id with
  | none =>
    rw [exec_bind_of_error _ (exec_lookup_of_none hf)]
    exact handedOut_nil b
  | some entry =>
    rw [exec_bind_of_ok _ (exec_lookup_of_some hf)]
    exact h entry

theorem foldl_track_toList (h : Holdings) (parent : Option NativeToken) :
    parent.elim h h.track = parent.toList.foldl Holdings.track h := by
  cases parent <;> rfl

theorem nodup_toList (parent : Option NativeToken) : parent.toList.Nodup := by
  cases parent <;> simp

theorem handsOut_handOut (b : Broker cards) (request : Request) : b.HandsOut request.handOut := by
  cases request with
  | enumerate filters maxTokens =>
    unfold Request.handOut Broker.HandsOut
    rw [exec_bind, exec_importFilters]
    cases filters.mapM b.registry.importFilter? with
    | none => exact handedOut_nil b
    | some natives =>
      refine handsOut_device _ nofun fun listing hlisting hgrants => ?_
      -- The driver lists no more than it was asked for.
      rw [List.take_of_length_le hgrants]
      exact ⟨rfl, Simulator.nodup_of_call_enumerate hlisting⟩
  | getProperties | updateProperties | getHandleProperties =>
    refine handsOut_lookup_bind fun entry => handsOut_device _ nofun fun p _ _ => ?_
    exact ⟨foldl_track_toList _ p.parent, nodup_toList p.parent⟩
  | _ => exact handedOut_nil b

/-! ## What becomes of it -/

/-- How a request goes on from what the driver has handed out: an identifier is had for every
token, or the first one without an identifier ends the request. -/
def Settles (back : Bool) (handed : Except Fault (List NativeToken) × Broker cards)
    (outcome : Except Fault α × Broker cards) : Prop :=
  match handed with
  | (.error fault, b) => outcome = (.error fault, b)
  | (.ok tokens, b) =>
    match tokens.drop (b.registry.internAll tokens).1.length with
    | [] => ∃ value, outcome = (.ok value, { b with registry := (b.registry.internAll tokens).2 })
    | rejected :: _ =>
      outcome = (.error .exception,
        { b with
          registry := (b.registry.internAll tokens).2
          device := b.device.takeBack back rejected })

theorem settles_exportTokens (s : Service (List NativeHeader)) (f : List TokenHeader → α)
    (b : Broker cards) :
    Settles true (exec (s >>= fun natives => pure (natives.map NativeHeader.token)) b)
      (exec (s >>= fun natives => natives.mapM exportToken >>= fun tokens => pure (f tokens))
        b) := by
  rcases hs : exec s b with ⟨fault | natives, b'⟩
  · rw [exec_bind_of_error _ hs, exec_bind_of_error _ hs]
    rfl
  · rw [exec_bind_of_ok _ hs, exec_bind_of_ok _ hs, exec_bind, exec_exportTokens]
    unfold Settles
    simp only [exec_pure, ← List.map_drop]
    cases natives.drop (b'.registry.internAll (natives.map NativeHeader.token)).1.length with
    | nil => exact ⟨_, rfl⟩
    | cons rejected rest => rfl

theorem settles_exportProperties (s : Service (Properties NativeToken)) (b : Broker cards) :
    Settles false (exec (s >>= fun p => pure p.parent.toList) b)
      (exec (s >>= exportProperties) b) := by
  rcases hs : exec s b with ⟨fault | p, b'⟩
  · rw [exec_bind_of_error _ hs, exec_bind_of_error _ hs]
    rfl
  · rw [exec_bind_of_ok _ hs, exec_bind_of_ok _ hs, exec_exportProperties]
    unfold Settles
    rw [exec_pure]
    dsimp only
    cases p.parent.toList.drop (b'.registry.internAll p.parent.toList).1.length with
    | nil => exact ⟨_, rfl⟩
    | cons rejected rest => rfl

theorem settles_lookup_bind {back : Bool} {cls : ResourceClass} {id : RemoteId}
    {first : cls.Entry → Service (List NativeToken)} {next : cls.Entry → Service α}
    {b : Broker cards} (h : ∀ entry, Settles back (exec (first entry) b) (exec (next entry) b)) :
    Settles back (exec (lookup cls id >>= first) b) (exec (lookup cls id >>= next) b) := by
  cases hf : (b.registry.map cls).find? id with
  | none =>
    rw [exec_bind_of_error _ (exec_lookup_of_none hf),
      exec_bind_of_error _ (exec_lookup_of_none hf)]
    rfl
  | some entry =>
    rw [exec_bind_of_ok _ (exec_lookup_of_some hf), exec_bind_of_ok _ (exec_lookup_of_some hf)]
    exact h entry

theorem settles_serve {request : Request} (h : request.handsOut = true) (limit : UInt64)
    (b : Broker cards) :
    Settles request.givesBack (exec request.handOut b) (exec (request.serve limit) b) := by
  cases request with
  | enumerate filters maxTokens =>
    rw [Request.serve, Request.handOut]
    simp only [exec_bind (filters.mapM importFilter)]
    rw [exec_importFilters]
    cases filters.mapM b.registry.importFilter? with
    | none => rfl
    | some natives =>
      dsimp only
      rcases hd : exec (device (.enumerate natives maxTokens)) b with ⟨fault | listing, b'⟩
      · rw [exec_bind_of_error _ hd, exec_bind_of_error _ hd]
        rfl
      · rw [exec_bind_of_ok _ hd, exec_bind_of_ok _ hd]
        exact settles_exportTokens (pure (listing.tokens.take maxTokens.toNat)) _ b'
  | getProperties tokenId =>
    exact settles_lookup_bind fun entry =>
      settles_exportProperties (device (.getProperties entry.token)) b
  | updateProperties tokenId =>
    exact settles_lookup_bind fun entry =>
      settles_exportProperties (device (.updateProperties entry.token)) b
  | getHandleProperties handleId =>
    exact settles_lookup_bind fun entry =>
      settles_exportProperties (device (.getHandleProperties entry.handle)) b
  | _ => cases h

end Service

/-- What stands behind a place of a list of distinct values does not stand before it. -/
theorem mem_drop_iff_of_nodup {α : Type} {l : List α} (h : l.Nodup) (n : Nat) (a : α) :
    a ∈ l.drop n ↔ a ∈ l ∧ a ∉ l.take n := by
  have hdisjoint := List.disjoint_take_drop h (Nat.le_refl n)
  constructor
  · exact fun ha => ⟨List.mem_of_mem_drop ha, fun hb => hdisjoint hb ha⟩
  · rintro ⟨ha, hb⟩
    rw [← List.take_append_drop n l, List.mem_append] at ha
    exact ha.resolve_left hb

namespace Broker

variable {b : Broker cards} {request : Request}

/-- A token is live after a request that was not live before, and no identifier names it. -/
structure Strands (b : Broker cards) (request : Request) (token : NativeToken) : Prop where
  live : (b.handle request).2.device.tokens.contains token = true
  new : b.device.tokens.contains token = false
  untracked : ¬(b.handle request).2.registry.Tracks token

/-- The tokens that the driver hands out for a request and that no identifier is had for,
from the first rejected one on. -/
def unissued (b : Broker cards) (request : Request) : List NativeToken :=
  match (exec request.handOut b).1 with
  | .ok tokens => tokens.drop (b.registry.internAll tokens).1.length
  | .error _ => []

/-- Those of them that are not given back. -/
def leftBehind (b : Broker cards) (request : Request) : List NativeToken :=
  if request.givesBack then (b.unissued request).tail else b.unissued request

/-- What a request does to tokens that it has no identifiers for. -/
structure Abandons (b : Broker cards) (request : Request) : Prop where
  /-- Whatever is left behind is stranded, if it was neither live nor tracked before, and
  nothing else is. -/
  strands_iff (token : NativeToken) :
    b.Strands request token ↔ token ∈ b.leftBehind request ∧
      b.device.tokens.contains token = false ∧ ¬b.registry.Tracks token
  /-- Only a request that fails strands anything. -/
  success : (b.handle request).1.status? = some .success → b.unissued request = []
  exception : b.unissued request ≠ [] →
    (b.handle request).1 = .answer request.operation (.error .exception)

section

variable {tokens : List NativeToken} (back : List NativeToken)

/-- If the driver holds after a request what it held before and the tokens that it has handed
out, but for those that were given back, then the others without an identifier are stranded. -/
theorem strands_iff_of_handed (well : b.registry.WellFormed)
    (well' : (b.handle request).2.registry.WellFormed) (nodup : tokens.Nodup)
    (registry : (b.handle request).2.registry = (b.registry.internAll tokens).2)
    (live : ∀ token, (b.handle request).2.device.tokens.contains token = true ↔
      (b.device.tokens.contains token = true ∨ token ∈ tokens) ∧ token ∉ back)
    (token : NativeToken) :
    b.Strands request token ↔
      (token ∈ tokens.drop (b.registry.internAll tokens).1.length ∧ token ∉ back) ∧
        b.device.tokens.contains token = false ∧ ¬b.registry.Tracks token := by
  have huntracked : ¬(b.handle request).2.registry.Tracks token ↔
      ¬b.registry.Tracks token ∧ token ∉ tokens.take (b.registry.internAll tokens).1.length := by
    rw [well'.tracks_iff, well.tracks_iff, not_not, not_not, registry,
      Registry.tokenId?_internAll_eq_none_iff]
  rw [mem_drop_iff_of_nodup nodup]
  constructor
  · rintro ⟨hlive, hnew, hun⟩
    obtain ⟨hheld, hback⟩ := (live token).mp hlive
    obtain ⟨hbefore, hbehind⟩ := huntracked.mp hun
    have hhanded : token ∈ tokens := hheld.resolve_left (by rw [hnew]; decide)
    exact ⟨⟨⟨hhanded, hbehind⟩, hback⟩, hnew, hbefore⟩
  · rintro ⟨⟨⟨hhanded, hbehind⟩, hback⟩, hnew, hbefore⟩
    exact ⟨(live token).mpr ⟨.inr hhanded, hback⟩, hnew, huntracked.mpr ⟨hbefore, hbehind⟩⟩

end

section

variable {b' : Broker cards} {tokens rest : List NativeToken} {rejected : NativeToken}

/-- A request that has an identifier for every token, or has failed before there was any. -/
theorem abandons_of_issued (well : b.registry.WellFormed)
    (well' : (b.handle request).2.registry.WellFormed) (handed : b.HandedOut tokens b')
    (registry : (b.handle request).2.registry = (b.registry.internAll tokens).2)
    (device : (b.handle request).2.device = b'.device)
    (issued : tokens.drop (b.registry.internAll tokens).1.length = [])
    (unissued : b.unissued request = []) : b.Abandons request where
  strands_iff token := by
    have hleft : b.leftBehind request = [] := by
      unfold leftBehind
      rw [unissued]
      split <;> rfl
    have hstrands := strands_iff_of_handed [] well well' handed.nodup registry
      (fun other => by rw [device, handed.contains_iff]; simp) token
    rw [hstrands, hleft, issued]
    simp
  success _ := unissued
  exception h := absurd unissued h

/-- A request that ends at a rejected token. -/
theorem abandons_of_rejected (well : b.registry.WellFormed)
    (well' : (b.handle request).2.registry.WellFormed) (handed : b.HandedOut tokens b')
    (unarmed : b.device.armed .destroyToken = none)
    (drop : tokens.drop (b.registry.internAll tokens).1.length = rejected :: rest)
    (unissued : b.unissued request = rejected :: rest)
    (handle : b.handle request = (.answer request.operation (.error .exception),
      { b' with
        registry := (b.registry.internAll tokens).2
        device := b'.device.takeBack request.givesBack rejected })) :
    b.Abandons request where
  strands_iff token := by
    have hrejected : rejected ∈ tokens := List.mem_of_mem_drop (drop ▸ List.mem_cons_self)
    have hnodup : (rejected :: rest).Nodup :=
      drop ▸ handed.nodup.sublist (List.drop_sublist _ _)
    have hstrands := strands_iff_of_handed _ well well' handed.nodup (by rw [handle])
      (fun other => by
        rw [handle]
        exact handed.contains_takeBack unarmed hrejected request.givesBack other) token
    rw [hstrands, drop, leftBehind, unissued]
    refine and_congr_left fun _ => ?_
    -- The rejected token occurs once, so giving it back leaves those behind it.
    cases request.givesBack with
    | false => simp
    | true =>
      have hrest : rejected ∉ rest := (List.nodup_cons.mp hnodup).1
      rw [if_pos rfl, if_pos rfl, List.mem_singleton, List.mem_cons, List.tail_cons]
      exact ⟨fun h => h.1.resolve_left h.2, fun h => ⟨.inr h, fun heq => hrest (heq ▸ h)⟩⟩
  success hok := by
    rw [handle] at hok
    cases hok
  exception _ := by rw [handle]

end

theorem abandons_of_wellFormed (well : b.registry.WellFormed)
    (well' : (b.handle request).2.registry.WellFormed) (hands : request.handsOut = true)
    (unarmed : b.device.armed .destroyToken = none) : b.Abandons request := by
  have hhands := handsOut_handOut b request
  have hsettles := settles_serve hands b.payloadLimit b
  have hhandle := b.handle_eq request
  have hunissued : b.unissued request = _ := unissued.eq_def b request
  unfold HandsOut at hhands
  rcases hout : exec request.handOut b with ⟨fault | tokens, b'⟩
  · rw [hout] at hhands hsettles hunissued
    rw [show exec (request.serve b.payloadLimit) b = (.error fault, b') from hsettles] at hhandle
    exact abandons_of_issued well well' hhands (hhandle ▸ hhands.registry)
      (congrArg (fun outcome => outcome.2.device) hhandle) rfl hunissued
  · rw [hout] at hhands hsettles hunissued
    have hhanded : b.HandedOut tokens b' := hhands
    unfold Settles at hsettles
    dsimp only at hsettles hunissued
    rw [hhanded.registry] at hsettles
    cases hdrop : tokens.drop (b.registry.internAll tokens).1.length with
    | nil =>
      rw [hdrop] at hsettles
      obtain ⟨value, hserve⟩ := hsettles
      rw [hserve] at hhandle
      exact abandons_of_issued well well' hhanded (by rw [hhandle]) (by rw [hhandle]) hdrop
        (hunissued.trans hdrop)
    | cons rejected rest =>
      rw [hdrop] at hsettles
      rw [show exec (request.serve b.payloadLimit) b = _ from hsettles] at hhandle
      exact abandons_of_rejected well well' hhanded unarmed hdrop (hunissued.trans hdrop) hhandle

/-- Along every history, whatever identifiers are drawn from: while giving a token back meets
no failure, a listing strands what stands behind the first token without an identifier, and a
read of properties strands the parent that it has none for. -/
theorem abandons_after (source : IdSource) (device : Simulator cards) (limit : UInt64)
    (events : List Event) (hands : request.handsOut = true)
    (unarmed : ((start source device limit).after events).device.armed .destroyToken = none) :
    ((start source device limit).after events).Abandons request := by
  have well := wellFormed_after (b := start source device limit) events
    (Registry.wellFormed_empty source)
  exact abandons_of_wellFormed well (wellFormed_step (.serve request) well) hands unarmed

/-- A listing of two cards whose second identifier collides with the first. -/
theorem abandons_after_collision :
    (Request.enumerate [] 4).handsOut = true ∧
      ((start (.script [⟨7, 1⟩, ⟨7, 1⟩]) (.start 2 fun _ => none) 4096).after
        [.serve (.getProperties ⟨7, 1⟩)]).device.armed .destroyToken = none ∧
      ((start (.script [⟨7, 1⟩, ⟨7, 1⟩]) (.start 2 fun _ => none) 4096).after
        [.serve (.getProperties ⟨7, 1⟩)]).Abandons (.enumerate [] 4) :=
  ⟨rfl, rfl, abandons_after _ _ _ _ rfl rfl⟩

/-- One card, and no identifiers. -/
def unnamed : Broker 1 := start (.script []) (.start 1 fun _ => none) 4096

/-- One card, and a single identifier, which its accelerator has. -/
def singled : Broker 1 :=
  (start (.script [⟨7, 2⟩]) (.start 1 fun _ => none) 4096).after
    [.serve (.enumerate [{ kind := some .accelerator }] 1)]

/-- With no failure armed, a listing gives the management device back and strands the
accelerator, and a read of the properties of the accelerator strands the management device. -/
theorem strands_of_exhausted :
    ((∀ kind, unnamed.device.armed kind = none) ∧
        (unnamed.handle (.enumerate [] 2)).1 = .answer .enumerate (.error .exception) ∧
        unnamed.Strands (.enumerate [] 2) ⟨0x1001⟩) ∧
      (∀ kind, singled.device.armed kind = none) ∧
        (singled.handle (.getProperties ⟨7, 2⟩)).1 = .answer .getProperties (.error .exception) ∧
        singled.Strands (.getProperties ⟨7, 2⟩) ⟨0x1000⟩ := by
  have hunnamed : (unnamed.handle (.enumerate [] 2)).2.registry.WellFormed :=
    wellFormed_step (.serve (.enumerate [] 2)) (Registry.wellFormed_empty _)
  have hsingled : (singled.handle (.getProperties ⟨7, 2⟩)).2.registry.WellFormed :=
    wellFormed_step (.serve (.getProperties ⟨7, 2⟩))
      (wellFormed_after _ (Registry.wellFormed_empty _))
  refine ⟨⟨fun _ => rfl, rfl, rfl, rfl, ?_⟩, fun _ => rfl, rfl, rfl, rfl, ?_⟩
  · rw [hunnamed.tracks_iff, not_not]
    rfl
  · rw [hsingled.tracks_iff, not_not]
    rfl

end Broker

end DeviceBroker
