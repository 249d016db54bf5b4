import EdgePlatform.Foundation.Message

/-!
# `EdgePlatform.Credential.Types` — the messages of the credential plane

The records of `credential_plane.proto` that the local stores keep: the delivery bundle with its four
payloads, and the local state, which holds only references to bundles. Enumeration fields are open `Int32`s,
recognised by `tryFrom`, and an embedded message may be absent. Each message has its `Codec`, with the field
numbers of the proto file.
-/

namespace EdgePlatform.Credential

open Foundation Foundation.Wire

/-! ## Enumerations -/

inductive CredentialProjectionKind
  | unspecified | windows | vm
deriving DecidableEq

inductive CredentialDeliverySlot
  | unspecified | a | b
deriving DecidableEq

inductive CredentialRotationClass
  | unspecified | tunnelAuth | realityIdentity | line2ProxyAuth
deriving DecidableEq

instance : ProtoEnum CredentialProjectionKind where
  all := [.unspecified, .windows, .vm]
  code := CredentialProjectionKind.ctorIdx

instance : ProtoEnum CredentialDeliverySlot where
  all := [.unspecified, .a, .b]
  code := CredentialDeliverySlot.ctorIdx

instance : ProtoEnum CredentialRotationClass where
  all := [.unspecified, .tunnelAuth, .realityIdentity, .line2ProxyAuth]
  code := CredentialRotationClass.ctorIdx

/-! ## Credential material -/

structure TunnelAuthentication where
  vlessUuid : String
  hysteria2Password : String
  realityShortId : String
deriving DecidableEq

structure RealityPublicIdentity where
  publicKey : String
deriving DecidableEq

structure RealityPrivateIdentity where
  privateKey : String
deriving DecidableEq

/-- One generation of the material of both lines. -/
structure LineGeneration (α : Type) where
  generation : UInt64
  direct : Option α
  warp : Option α
deriving DecidableEq

abbrev TunnelAuthenticationGeneration := LineGeneration TunnelAuthentication
abbrev RealityPublicIdentityGeneration := LineGeneration RealityPublicIdentity
abbrev RealityPrivateIdentityGeneration := LineGeneration RealityPrivateIdentity

structure ProxyCredentialGeneration where
  generation : UInt64
  password : String
deriving DecidableEq

structure WindowsCredentialProjection where
  tunnelAuth : Option TunnelAuthenticationGeneration
  realityIdentity : Option RealityPublicIdentityGeneration
deriving DecidableEq

structure VmCredentialProjection where
  tunnelAuth : Option TunnelAuthenticationGeneration
  realityIdentity : Option RealityPrivateIdentityGeneration
  line2Proxy : Option ProxyCredentialGeneration
deriving DecidableEq

structure WindowsCredentialRotationDelta where
  credentialClass : Int32
  tunnelAuth : Option TunnelAuthenticationGeneration
  realityIdentity : Option RealityPublicIdentityGeneration
deriving DecidableEq

structure VmCredentialRotationDelta where
  credentialClass : Int32
  tunnelAuth : Option TunnelAuthenticationGeneration
  realityIdentity : Option RealityPrivateIdentityGeneration
  line2Proxy : Option ProxyCredentialGeneration
deriving DecidableEq

/-! ## Bundles and the local state -/

inductive Payload
  | windows (value : WindowsCredentialProjection)
  | vm (value : VmCredentialProjection)
  | windowsRotation (value : WindowsCredentialRotationDelta)
  | vmRotation (value : VmCredentialRotationDelta)
deriving DecidableEq

structure CredentialDeliveryBundle where
  schemaVersion : UInt32
  generation : UInt64
  projection : Int32
  dummyNonSecret : Bool
  slot : Int32
  payload : Option Payload
deriving DecidableEq

structure LocalCredentialBundleRef where
  generation : UInt64
  slot : Int32
  sha256 : String
deriving DecidableEq

structure LocalCredentialState where
  schemaVersion : UInt32
  projection : Int32
  active : Option LocalCredentialBundleRef
  candidate : Option LocalCredentialBundleRef
  previous : Option LocalCredentialBundleRef
deriving DecidableEq

/-- The bundles a state refers to. -/
def LocalCredentialState.references (st : LocalCredentialState) : List LocalCredentialBundleRef :=
  st.active.toList ++ st.candidate.toList ++ st.previous.toList

/-! ## Encodings -/

open Codec FieldCodec

def TunnelAuthentication.codec : Codec TunnelAuthentication :=
  (cons (string 1 (by decide)) (cons (string 2 (by decide)) (cons (string 3 (by decide)) nil (by decide))
    (by decide)) (by decide)).shape
    (fun v => (v.vlessUuid, v.hysteria2Password, v.realityShortId, ()))
    (fun v => some ⟨v.1, v.2.1, v.2.2.1⟩) fun _ => rfl

def RealityPublicIdentity.codec : Codec RealityPublicIdentity :=
  (cons (string 1 (by decide)) nil (by decide)).shape (fun v => (v.publicKey, ())) (fun v => some ⟨v.1⟩)
    fun _ => rfl

def RealityPrivateIdentity.codec : Codec RealityPrivateIdentity :=
  (cons (string 1 (by decide)) nil (by decide)).shape (fun v => (v.privateKey, ())) (fun v => some ⟨v.1⟩)
    fun _ => rfl

def LineGeneration.codec {α : Type} (c : Codec α) : Codec (LineGeneration α) :=
  (cons (u64 1 (by decide))
    (cons (message 2 (by decide) c) (cons (message 3 (by decide) c) nil (by simp [nil]))
      (by simp [nil, cons, message])) (by simp [nil, cons, message, u64])).shape
    (fun v => (v.generation, v.direct, v.warp, ()))
    (fun v => some ⟨v.1, v.2.1, v.2.2.1⟩) fun _ => rfl

def ProxyCredentialGeneration.codec : Codec ProxyCredentialGeneration :=
  (cons (u64 1 (by decide)) (cons (string 2 (by decide)) nil (by decide)) (by decide)).shape
    (fun v => (v.generation, v.password, ())) (fun v => some ⟨v.1, v.2.1⟩) fun _ => rfl

def WindowsCredentialProjection.codec : Codec WindowsCredentialProjection :=
  (cons (message 1 (by decide) (LineGeneration.codec TunnelAuthentication.codec))
    (cons (message 2 (by decide) (LineGeneration.codec RealityPublicIdentity.codec)) nil (by decide))
    (by decide)).shape
    (fun v => (v.tunnelAuth, v.realityIdentity, ())) (fun v => some ⟨v.1, v.2.1⟩) fun _ => rfl

def VmCredentialProjection.codec : Codec VmCredentialProjection :=
  (cons (message 1 (by decide) (LineGeneration.codec TunnelAuthentication.codec))
    (cons (message 2 (by decide) (LineGeneration.codec RealityPrivateIdentity.codec))
      (cons (message 3 (by decide) ProxyCredentialGeneration.codec) nil (by decide)) (by decide))
    (by decide)).shape
    (fun v => (v.tunnelAuth, v.realityIdentity, v.line2Proxy, ())) (fun v => some ⟨v.1, v.2.1, v.2.2.1⟩)
    fun _ => rfl

def WindowsCredentialRotationDelta.codec : Codec WindowsCredentialRotationDelta :=
  (cons (i32 1 (by decide)) (cons (message 2 (by decide) (LineGeneration.codec TunnelAuthentication.codec))
    (cons (message 3 (by decide) (LineGeneration.codec RealityPublicIdentity.codec)) nil (by decide))
    (by decide)) (by decide)).shape
    (fun v => (v.credentialClass, v.tunnelAuth, v.realityIdentity, ()))
    (fun v => some ⟨v.1, v.2.1, v.2.2.1⟩) fun _ => rfl

def VmCredentialRotationDelta.codec : Codec VmCredentialRotationDelta :=
  (cons (i32 1 (by decide)) (cons (message 2 (by decide) (LineGeneration.codec TunnelAuthentication.codec))
    (cons (message 3 (by decide) (LineGeneration.codec RealityPrivateIdentity.codec))
      (cons (message 4 (by decide) ProxyCredentialGeneration.codec) nil (by decide)) (by decide))
    (by decide)) (by decide)).shape
    (fun v => (v.credentialClass, v.tunnelAuth, v.realityIdentity, v.line2Proxy, ()))
    (fun v => some ⟨v.1, v.2.1, v.2.2.1, v.2.2.2.1⟩) fun _ => rfl

/-- The members of the payload's `oneof`, of which at most one is set. Where bytes set several, prost keeps
    the last; every reader of bundles compares the bytes with the re-encoding. -/
def Payload.codec : Codec (Option Payload) :=
  (cons (message 10 (by decide) WindowsCredentialProjection.codec)
    (cons (message 11 (by decide) VmCredentialProjection.codec)
      (cons (message 12 (by decide) WindowsCredentialRotationDelta.codec)
        (cons (message 13 (by decide) VmCredentialRotationDelta.codec) nil (by decide)) (by decide))
      (by decide)) (by decide)).shape
    (fun p => match p with
      | none => (none, none, none, none, ())
      | some (.windows v) => (some v, none, none, none, ())
      | some (.vm v) => (none, some v, none, none, ())
      | some (.windowsRotation v) => (none, none, some v, none, ())
      | some (.vmRotation v) => (none, none, none, some v, ()))
    (fun p => match p with
      | (none, none, none, none, _) => some none
      | (some v, none, none, none, _) => some (some (.windows v))
      | (none, some v, none, none, _) => some (some (.vm v))
      | (none, none, some v, none, _) => some (some (.windowsRotation v))
      | (none, none, none, some v, _) => some (some (.vmRotation v))
      | _ => none)
    (by rintro (_ | ⟨_⟩ | ⟨_⟩ | ⟨_⟩ | ⟨_⟩) <;> rfl)

def CredentialDeliveryBundle.codec : Codec CredentialDeliveryBundle :=
  (append (cons (u32 1 (by decide)) (cons (u64 2 (by decide)) (cons (i32 3 (by decide))
    (cons (bool 4 (by decide)) (cons (i32 5 (by decide)) nil (by decide)) (by decide)) (by decide))
    (by decide)) (by decide)) Payload.codec (by decide)).shape
    (fun v => ((v.schemaVersion, v.generation, v.projection, v.dummyNonSecret, v.slot, ()), v.payload))
    (fun v => some ⟨v.1.1, v.1.2.1, v.1.2.2.1, v.1.2.2.2.1, v.1.2.2.2.2.1, v.2⟩) fun _ => rfl

def LocalCredentialBundleRef.codec : Codec LocalCredentialBundleRef :=
  (cons (u64 1 (by decide)) (cons (i32 2 (by decide)) (cons (string 3 (by decide)) nil (by decide))
    (by decide)) (by decide)).shape
    (fun v => (v.generation, v.slot, v.sha256, ())) (fun v => some ⟨v.1, v.2.1, v.2.2.1⟩) fun _ => rfl

def LocalCredentialState.codec : Codec LocalCredentialState :=
  (cons (u32 1 (by decide)) (cons (i32 2 (by decide))
    (cons (message 3 (by decide) LocalCredentialBundleRef.codec)
      (cons (message 4 (by decide) LocalCredentialBundleRef.codec)
        (cons (message 5 (by decide) LocalCredentialBundleRef.codec) nil (by decide)) (by decide))
        (by decide))
    (by decide)) (by decide)).shape
    (fun v => (v.schemaVersion, v.projection, v.active, v.candidate, v.previous, ()))
    (fun v => some ⟨v.1, v.2.1, v.2.2.1, v.2.2.2.1, v.2.2.2.2.1⟩) fun _ => rfl

end EdgePlatform.Credential
