import OpcUa.Security.Certificate

/-!
# Trust

A trust list holds the thumbprints of the certificates that are trusted, each once and in order. A
trust policy is such a list, or it accepts everyone.
-/

namespace OpcUa

structure TrustList where
  trusted : List Thumbprint := []
  checkTime : Bool := false
  deriving DecidableEq

namespace TrustList

/-- A thumbprint among others that are in order. -/
def insert (t : Thumbprint) : List Thumbprint → List Thumbprint
  | [] => [t]
  | u :: rest =>
    if t = u then u :: rest
    else if t.before u then t :: u :: rest
    else u :: insert t rest

def trust (l : TrustList) (t : Thumbprint) : TrustList :=
  { l with trusted := insert t l.trusted }

/-- The list without the thumbprint, and whether it was there. -/
def revoke (l : TrustList) (t : Thumbprint) : TrustList × Bool :=
  ({ l with trusted := l.trusted.filter (· != t) }, l.trusted.contains t)

def ofCertificates (certificates : List Certificate) : TrustList :=
  certificates.foldl (fun l c => l.trust c.thumbprint) {}

/-- Whether certificates have to be valid as well. -/
def withTimeCheck (l : TrustList) (enabled : Bool) : TrustList :=
  { l with checkTime := enabled }

def size (l : TrustList) : Nat :=
  l.trusted.length

def validate (l : TrustList) (now : Instant) (c : Certificate) : Except Fault Unit :=
  if l.trusted.contains c.thumbprint then
    if l.checkTime then c.checkValidity now else .ok ()
  else .error (.untrusted c.subject c.thumbprint.text)

def debugText (l : TrustList) : String :=
  "TrustList \x7b trusted: \x7b" ++ ", ".intercalate (l.trusted.map Thumbprint.debugText) ++
    "\x7d, check_time: " ++ toString l.checkTime ++ " \x7d"

end TrustList

inductive TrustPolicy where
  | allowAll
  | listed (list : TrustList)
  deriving DecidableEq

namespace TrustPolicy

def validate (p : TrustPolicy) (now : Instant) (c : Certificate) : Except Fault Unit :=
  match p with
  | .allowAll => .ok ()
  | .listed list => list.validate now c

def debugText : TrustPolicy → String
  | .allowAll => "AllowAll"
  | .listed list => list.debugText

end TrustPolicy

end OpcUa
