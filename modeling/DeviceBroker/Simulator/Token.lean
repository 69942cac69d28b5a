import DeviceBroker.Simulator.State

/-!
# Tokens of the simulated cards

Enumeration, cloning and destruction of tokens, properties and error
registers. Handing out a token makes it live; reading the properties of an
accelerator hands out the token of its parent as well.
-/

namespace DeviceBroker.Simulator

variable {cards : Nat}

def publish (s : Simulator cards) (token : NativeToken) (site : Site cards) : Simulator cards :=
  { s with tokens := s.tokens.insert token site }

/-- A token for a site with the header of its resource. -/
def headed (s : Simulator cards) (token : NativeToken) (site : Site cards) : NativeHeader :=
  ⟨token, site.header (s.resources site)⟩

/-- The filter with its parent replaced by the canonical token of the same
resource, so that parents are compared by resource. -/
def canonicalFilter (s : Simulator cards) (filter : Properties NativeToken) :
    Properties NativeToken :=
  filter.mapParent fun token =>
    match s.tokens.find? token with
    | some site => site.canonical
    | none => token

/-- Whether the resource at a site satisfies some filter, or there is no filter. -/
def selects (s : Simulator cards) (filters : List (Properties NativeToken)) (site : Site cards) :
    Bool :=
  filters.isEmpty || filters.any fun filter =>
    (site.properties (s.resources site)).satisfies (s.canonicalFilter filter)

/-- List the resources that satisfy some filter, in card order. -/
def enumerate (s : Simulator cards) (filters : List (Properties NativeToken)) (maxTokens : UInt32) :
    NativeListing × Simulator cards :=
  let found := (Site.all cards).filter (s.selects filters)
  let listed := found.take maxTokens.toNat
  (⟨listed.map fun site => s.headed site.canonical site, UInt32.ofNat found.length⟩,
    listed.foldl (fun s site => s.publish site.canonical site) s)

def destroyToken (s : Simulator cards) (token : NativeToken) :
    Except Fault (Unit × Simulator cards) :=
  match s.siteOf token with
  | .error fault => .error fault
  | .ok _ => .ok ((), { s with tokens := s.tokens.erase token })

def firstClone : Nat := 0x100000

/-- Hand out another token for the resource of a token. -/
def cloneToken (s : Simulator cards) (token : NativeToken) :
    Except Fault (NativeHeader × Simulator cards) :=
  match s.siteOf token with
  | .error fault => .error fault
  | .ok site =>
    let clone : NativeToken := ⟨firstClone + s.nextToken⟩
    .ok (s.headed clone site, { s with nextToken := s.nextToken + 1 }.publish clone site)

/-- The properties of a resource; the token of its parent is handed out with them. -/
def propertiesAt (s : Simulator cards) (site : Site cards) :
    Properties NativeToken × Simulator cards :=
  (site.properties (s.resources site),
    match site.kind with
    | .device => s
    | .accelerator => s.publish site.management.canonical site.management)

def tokenProperties (s : Simulator cards) (token : NativeToken) :
    Except Fault (Properties NativeToken × Simulator cards) :=
  (s.siteOf token).map s.propertiesAt

def errorRegister (s : Simulator cards) (token : NativeToken) (number : UInt32) :
    Except Fault (Site cards × ErrorRegister) :=
  match s.siteOf token with
  | .error fault => .error fault
  | .ok site =>
    match (s.resources site).errors[number.toNat]? with
    | some register => .ok (site, register)
    | none => .error .invalidParam

def readError (s : Simulator cards) (token : NativeToken) (number : UInt32) :
    Except Fault UInt64 :=
  (s.errorRegister token number).map fun found => found.2.value

def errorInfo (s : Simulator cards) (token : NativeToken) (number : UInt32) :
    Except Fault ErrorInfo :=
  (s.errorRegister token number).map fun found => found.2.info

/-- The state with the value of an error register changed. -/
def changeError (s : Simulator cards) (site : Site cards) (number : UInt32)
    (change : UInt64 → UInt64) : Simulator cards :=
  s.updateResource site fun r =>
    { r with
      errors := r.errors.modify number.toNat fun register =>
        { register with value := change register.value } }

/-- Clear an error register, if it can be cleared. -/
def clearError (s : Simulator cards) (token : NativeToken) (number : UInt32) :
    Except Fault (Unit × Simulator cards) :=
  match s.errorRegister token number with
  | .error fault => .error fault
  | .ok (site, register) =>
    if register.info.canClear then .ok ((), s.changeError site number fun _ => 0)
    else .error .notSupported

def clearAllErrors (s : Simulator cards) (token : NativeToken) :
    Except Fault (Unit × Simulator cards) :=
  match s.siteOf token with
  | .error fault => .error fault
  | .ok site =>
    .ok ((), s.updateResource site fun r =>
      { r with
        errors := r.errors.map fun register =>
          if register.info.canClear then { register with value := 0 } else register })

/-- Set bits of an error register, as a failing card would. This is not a call
of the driver. -/
def raiseError (s : Simulator cards) (token : NativeToken) (number : UInt32) (bits : UInt64) :
    Except Fault Unit × Simulator cards :=
  match s.errorRegister token number with
  | .error fault => (.error fault, s)
  | .ok (site, _) => (.ok (), s.changeError site number fun value => value ||| bits)

end DeviceBroker.Simulator
