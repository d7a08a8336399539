import Regnant.Lib.YamlWritten
import Regnant.Sovereign.Artifacts

namespace Regnant.Sovereign
open Osb (Value)
open Yaml (Line Data)

def dumpsEscapes : List (Char × Char) :=
  [('\x5c', '\x5c'), ('\x22', '\x22'), ('\x08', 'b'), ('\x0c', 'f'), ('\n', 'n'), ('\r', 'r'),
   ('\t', 't')]

/-- `json.dumps` of a character in a string; one that has no 16 bits is written as a surrogate
pair. -/
def dumpsChar (c : Char) : Line :=
  match dumpsEscapes.lookup c with
  | some e => ['\x5c', e]
  | none =>
      if 0x20 ≤ c.toNat ∧ c.toNat ≤ 0x7e then [c]
      else if c.toNat ≤ 0xffff then Yaml.unicodeEscape c.toNat
      else
        Yaml.unicodeEscape (0xd800 + (c.toNat - 0x10000) / 0x400) ++
          Yaml.unicodeEscape (0xdc00 + (c.toNat - 0x10000) % 0x400)

def htmlSafe (c : Char) : Line :=
  if c ∈ ['<', '>', '&', '\x27'] then Yaml.unicodeEscape c.toNat else [c]

def tojsonString (s : String) : String :=
  String.ofList (('\x22' :: s.toList.flatMap dumpsChar ++ ['\x22']).flatMap htmlSafe)

structure LeafBundle where
  certificatePem : String
  privateKeyPem : String
  caCertPem : String
  deriving DecidableEq

def LeafBundle.ofLeaf (leaf : Value) : Option LeafBundle :=
  match leaf with
  | .dict items =>
      match items.lookup "certificate_pem", items.lookup "private_key_pem",
        items.lookup "ca_cert_pem" with
      | some (.str certificate), some (.str key), some (.str ca) => some ⟨certificate, key, ca⟩
      | _, _, _ => none
  | _ => none

def bundlesOf (secrets : List (String × Value)) : List (String × LeafBundle) :=
  secrets.filterMap fun secret => (LeafBundle.ofLeaf secret.2).map (secret.1, ·)

def LeafBundle.Plain (bundle : LeafBundle) : Prop :=
  ∀ pem ∈ [bundle.certificatePem, bundle.privateKeyPem, bundle.caCertPem],
    ∀ c ∈ pem.toList, c.toNat ≤ 0xffff

instance (bundle : LeafBundle) : Decidable bundle.Plain :=
  decidable_of_iff (∀ pem ∈ [bundle.certificatePem, bundle.privateKeyPem, bundle.caCertPem],
    pem.toList.Forall (·.toNat ≤ 0xffff)) (by simp only [List.forall_iff_forall_mem]; rfl)

def secretType : String :=
  "type.googleapis.com/envoy.extensions.transport_sockets.tls.v3.Secret"

def inlineString (s : String) : Data :=
  .mapping [("inline_string".toList, .scalar s.toList)]

def certificateSecret (name : String) (bundle : LeafBundle) : List (Line × Data) :=
  [("@type".toList, .scalar secretType.toList),
   ("name".toList, .scalar (name ++ "-cert").toList),
   ("tls_certificate".toList, .mapping [
     ("certificate_chain".toList, inlineString bundle.certificatePem),
     ("private_key".toList, inlineString bundle.privateKeyPem)])]

def authoritySecret (name : String) (bundle : LeafBundle) : List (Line × Data) :=
  [("@type".toList, .scalar secretType.toList),
   ("name".toList, .scalar (name ++ "-ca").toList),
   ("validation_context".toList, .mapping [
     ("trusted_ca".toList, inlineString bundle.caCertPem)])]

def ServesBundles (j : Jinja Value) (secrets : List (String × Value))
    (bundles : List (String × LeafBundle)) : Prop :=
  ∃ text, renderSecrets j secrets = some text ∧
    Yaml.parseTree text.toList =
      some (bundles.flatMap fun b => [certificateSecret b.1 b.2, authoritySecret b.1 b.2])

end Regnant.Sovereign
