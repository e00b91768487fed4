import Anchr.Infra.Machine
import Anchr.Proofs.PhotoIntegrity
import Anchr.Proofs.Verifier

/-!
# The registry of Proof Schema bundles

`schema.ts` and `proofs/verification/checks/registry.ts`: a map of bundles for the whole process, to
which the first verification adds the reference bundles. Of `verifyProof` this is the part up to the
bundle that it uses.
-/

namespace Anchr.Proofs

open Infra

/-- `GenericMediaSchemaUri`. -/
def genericMediaSchemaUri : String := "https://anchr-spec.org/spec/proof/photo/v1"

/-- The URLs of the reference bundles, in the order of their registration. -/
def referenceUris : List String := [genericMediaSchemaUri, tlsnV1, c2paImageV1]

/-- A bundle object. Those of the host are told apart by a number. -/
structure SchemaBundle where
  uri : String
  host : Option Nat
  deriving DecidableEq

/-- The bundle that the SDK makes for one of its URLs. -/
def referenceBundle (uri : String) : SchemaBundle := ⟨uri, none⟩

/-- The map, the flag and the callbacks. -/
structure SchemaRegistry where
  schemaBundles : JsMap String SchemaBundle := .empty
  registered : Bool := false
  /-- The bundles that `registerSchemaBundle` has returned a callback for. -/
  callbacks : List SchemaBundle := []

namespace SchemaRegistry

variable (s : SchemaRegistry)

def registerSchemaBundle (bundle : SchemaBundle) : Except String SchemaRegistry :=
  if s.schemaBundles.has bundle.uri then
    .error ("Proof Schema bundle already registered: " ++ bundle.uri)
  else .ok { s with schemaBundles := s.schemaBundles.set bundle.uri bundle }

/-- The callback of a bundle. -/
def dispose (bundle : SchemaBundle) : SchemaRegistry :=
  if s.schemaBundles.get? bundle.uri = some bundle then
    { s with schemaBundles := s.schemaBundles.delete bundle.uri }
  else s

def unregisterSchemaBundle (uri : String) : SchemaRegistry × Bool :=
  ({ s with schemaBundles := s.schemaBundles.delete uri }, s.schemaBundles.has uri)

/-- The reference bundles are registered one after the other; the text of what is thrown. -/
def registerReferences : List String → SchemaRegistry → SchemaRegistry × Option String
  | [], s => ({ s with registered := true }, none)
  | uri :: rest, s =>
    match s.registerSchemaBundle (referenceBundle uri) with
    | .error message => (s, some message)
    | .ok s' => registerReferences rest s'

def ensureReferenceSchemaBundlesRegistered : SchemaRegistry × Option String :=
  if s.registered then (s, none) else registerReferences referenceUris s

/-- `verifyProof` up to its bundle, or the text of what it rejects with. -/
def resolveBundle (schema : Option String) :
    SchemaRegistry × Except String (Option SchemaBundle) :=
  match s.ensureReferenceSchemaBundlesRegistered with
  | (s', some message) => (s', .error message)
  | (s', none) => (s', .ok (s'.schemaBundles.get? (schema.getD genericMediaSchemaUri)))

end SchemaRegistry

/-- The calls of a host, and a verification. -/
inductive RegistryCall where
  /-- `registerSchemaBundle`, with a bundle of the host. -/
  | register (uri : String) (host : Nat)
  | dispose (bundle : SchemaBundle)
  | unregister (uri : String)
  | verify (schema : Option String)

/-- What they come to. -/
inductive RegistryEvent where
  | registered (bundle : SchemaBundle)
  | refused (message : String)
  | disposed (bundle : SchemaBundle)
  | unregistered (uri : String) (found : Bool)
  | verified (schema : Option String) (used : Option SchemaBundle)
  | rejected (message : String)
  deriving DecidableEq

/-- Any sequence of these calls. -/
def registryMachine : Machine SchemaRegistry RegistryCall RegistryEvent where
  step s call :=
    match call with
    | .register uri host =>
      let bundle : SchemaBundle := ⟨uri, some host⟩
      match s.registerSchemaBundle bundle with
      | .error message => some (s, [.refused message])
      | .ok s' => some ({ s' with callbacks := bundle :: s.callbacks }, [.registered bundle])
    | .dispose bundle =>
      if bundle ∈ s.callbacks then some (s.dispose bundle, [.disposed bundle]) else none
    | .unregister uri =>
      let (s', found) := s.unregisterSchemaBundle uri
      some (s', [.unregistered uri found])
    | .verify schema =>
      match s.resolveBundle schema with
      | (s', .error message) => some (s', [.rejected message])
      | (s', .ok used) => some (s', [.verified schema used])

end Anchr.Proofs
