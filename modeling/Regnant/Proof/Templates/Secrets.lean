import Regnant.Proof.Leaves
import Regnant.Proof.Templates.Names
import Regnant.Sovereign.Secrets

namespace Regnant.Sovereign
open Osb (Value)
open Yaml (Line Key Written Stands)

theorem htmlSafe_hexDigit (n : Nat) :
    htmlSafe (Yaml.hexDigit (n % 16)) = [Yaml.hexDigit (n % 16)] := by
  have all : ∀ d : Fin 16, htmlSafe (Yaml.hexDigit d) = [Yaml.hexDigit d] := by decide
  exact all ⟨n % 16, Nat.mod_lt _ (by decide)⟩

theorem htmlSafe_unicodeEscape (n : Nat) :
    (Yaml.unicodeEscape n).flatMap htmlSafe = Yaml.unicodeEscape n := by
  have marks : htmlSafe '\x5c' = ['\x5c'] ∧ htmlSafe 'u' = ['u'] := by decide
  simp [Yaml.unicodeEscape, marks, htmlSafe_hexDigit]

theorem dumpsEscapes_read {c e : Char} (found : dumpsEscapes.lookup c = some e) :
    e ≠ 'u' ∧ Yaml.escapes.lookup e = some c ∧ htmlSafe e = [e] := by
  have all : ∀ p ∈ dumpsEscapes, p.2 ≠ 'u' ∧ Yaml.escapes.lookup p.2 = some p.1 ∧
      htmlSafe p.2 = [p.2] := by decide
  exact all (c, e) (Collect.mem_of_lookup found)

theorem stands_tojson {c : Char} (small : c.toNat ≤ 0xffff) :
    Stands ((dumpsChar c).flatMap htmlSafe) c := by
  unfold dumpsChar
  split
  next e found =>
    obtain ⟨other, read, safe⟩ := dumpsEscapes_read found
    have marks : htmlSafe '\x5c' = ['\x5c'] := by decide
    simp only [List.flatMap_cons, List.flatMap_nil, marks, safe]
    exact Yaml.stands_escape other read
  next unescaped =>
    rw [List.lookup_eq_none_iff] at unescaped
    split_ifs with printable
    · rw [List.flatMap_singleton, htmlSafe]
      split
      · exact Yaml.stands_unicode small
      · have quote := unescaped ('\x22', '\x22') (by decide)
        have backslash := unescaped ('\x5c', '\x5c') (by decide)
        exact Yaml.stands_self (by simpa using quote) (by simpa using backslash)
    · rw [htmlSafe_unicodeEscape]
      exact Yaml.stands_unicode small

theorem toList_tojsonString (s : String) : (tojsonString s).toList =
    '\x22' :: (s.toList.flatMap fun c => (dumpsChar c).flatMap htmlSafe) ++ ['\x22'] := by
  have quote : htmlSafe '\x22' = ['\x22'] := by decide
  simp [tojsonString, quote, List.flatMap_assoc]

theorem readScalar_tojson {s : String} (small : ∀ c ∈ s.toList, c.toNat ≤ 0xffff) :
    Yaml.readScalar (tojsonString s).toList = some s.toList := by
  have read := Yaml.unquote_flatMap (fun c member => stands_tojson (small c member)) []
  rw [toList_tojsonString, List.cons_append, Yaml.readScalar, read]
  rfl

theorem isText_printable {c : Char} (low : 0x20 ≤ c.toNat) (high : c.toNat ≤ 0x7e) :
    Yaml.isText c := by
  simp only [Yaml.isText, Yaml.isLegal, Yaml.isBreak, Bool.or_eq_true, Bool.and_eq_true,
    decide_eq_true_eq, List.mem_cons, List.not_mem_nil, or_false, decide_eq_false_iff_not]
  omega

theorem isText_tojson (s : String) : ∀ c ∈ (tojsonString s).toList, Yaml.isText c := by
  intro c member
  obtain ⟨low, high⟩ := printable_tojsonString s c member
  exact isText_printable low high

def wordKey (s : String) : Key :=
  ⟨s.toList, s.toList⟩

def typeKey : Key :=
  ⟨"\"@type\"".toList, "@type".toList⟩

def plainWritten (s : String) : Written :=
  .scalar s.toList s.toList

def inlineWritten (s : String) : Written :=
  .mapping [(wordKey "inline_string", .scalar (tojsonString s).toList s.toList)]

def certificateWritten (name : String) (bundle : LeafBundle) : List (Key × Written) :=
  [(typeKey, plainWritten secretType),
   (wordKey "name", plainWritten (name ++ "-cert")),
   (wordKey "tls_certificate", .mapping [
     (wordKey "certificate_chain", inlineWritten bundle.certificatePem),
     (wordKey "private_key", inlineWritten bundle.privateKeyPem)])]

def authorityWritten (name : String) (bundle : LeafBundle) : List (Key × Written) :=
  [(typeKey, plainWritten secretType),
   (wordKey "name", plainWritten (name ++ "-ca")),
   (wordKey "validation_context", .mapping [
     (wordKey "trusted_ca", inlineWritten bundle.caCertPem)])]

variable {escape : Char → Line} {str json : Value → Option String} {name : String} {leaf : Value}
  {bundle : LeafBundle}

theorem ofLeaf_some (holds : LeafBundle.ofLeaf leaf = some bundle) :
    ∃ items, leaf = .dict items ∧
      items.lookup "certificate_pem" = some (.str bundle.certificatePem) ∧
      items.lookup "private_key_pem" = some (.str bundle.privateKeyPem) ∧
      items.lookup "ca_cert_pem" = some (.str bundle.caCertPem) := by
  unfold LeafBundle.ofLeaf at holds
  split at holds
  next items =>
    split at holds
    next isCertificate isKey isCa =>
      cases holds
      exact ⟨items, rfl, isCertificate, isKey, isCa⟩
    next => cases holds
  next => cases holds

theorem secretLines_written (strings : ∀ s, json (.str s) = some (tojsonString s))
    (unescaped : Unescaped escape name) (holds : LeafBundle.ofLeaf leaf = some bundle) :
    ((valueJinja escape str json).secretLines name leaf).map (·.map String.toList) =
      some (Yaml.itemText (certificateWritten name bundle) ++
        Yaml.itemText (authorityWritten name bundle)) := by
  obtain ⟨items, rfl, certificate, key, ca⟩ := ofLeaf_some holds
  -- what is left differs only in where the literals of the template are cut
  simp only [Jinja.secretLines, Jinja.putJson, valueJinja, certificate, key, ca, strings,
    show name.toList.flatMap escape = name.toList from unescaped, String.ofList_toList,
    Option.bind_eq_bind, Option.bind_some, Option.map_some, List.map_cons, List.map_nil,
    String.toList_append, certificateWritten, authorityWritten, plainWritten, List.append_assoc]
  rfl

/-! ## Bundles are read back -/

theorem wordKey_reads (s : String) (nonempty : s.toList ≠ [])
    (chars : s.toList.Forall (Yaml.isWordChar · = true)) : (wordKey s).Reads :=
  (Yaml.isWord_of_forall nonempty chars).reads

theorem typeKey_reads : typeKey.Reads :=
  ⟨List.forall_iff_forall_mem.mp (by decide), ⟨'\x22', _, rfl, rfl, by decide⟩, by decide,
    by decide⟩

theorem plainWritten_reads {s : String} (safe : Yaml.PlainSafe s.toList) :
    (plainWritten s).Reads :=
  ⟨safe.chars, Yaml.dropWhile_of_trim safe.trimmed, Yaml.readScalar_plain safe⟩

theorem inlineWritten_reads {s : String} (small : ∀ c ∈ s.toList, c.toNat ≤ 0xffff) :
    (inlineWritten s).Reads := by
  have key := wordKey_reads "inline_string" (by decide) (by decide)
  refine ⟨by simp, key, ⟨isText_tojson s, ?_, readScalar_tojson small⟩, trivial⟩
  rw [toList_tojsonString]
  rfl

theorem plainSafe_suffixed {name : String} (plain : PlainId name) {s : String}
    (word : Yaml.IsWord s.toList) : Yaml.PlainSafe (name ++ "-" ++ s).toList := by
  have cluster : Yaml.IsWord "cluster".toList := Yaml.isWord_of_forall (by decide) (by decide)
  have named := (Yaml.plainSafe_suffix cluster word name.toList).mp
    (by simpa [PlainId, Osb.clusterName] using plain)
  simpa using named

theorem certificateWritten_reads (plain : PlainId name) (chars : bundle.Plain) :
    Yaml.EntriesRead (certificateWritten name bundle) := by
  have type : Yaml.PlainSafe secretType.toList := by decide
  have word : Yaml.IsWord "cert".toList := Yaml.isWord_of_forall (by decide) (by decide)
  have named := plainSafe_suffixed plain word
  have certificate := inlineWritten_reads (chars bundle.certificatePem (by simp))
  have key := inlineWritten_reads (chars bundle.privateKeyPem (by simp))
  refine ⟨typeKey_reads, plainWritten_reads type, wordKey_reads "name" (by decide) (by decide),
    plainWritten_reads (by simpa using named),
    wordKey_reads "tls_certificate" (by decide) (by decide), ⟨by simp, ?_⟩, trivial⟩
  exact ⟨wordKey_reads "certificate_chain" (by decide) (by decide), certificate,
    wordKey_reads "private_key" (by decide) (by decide), key, trivial⟩

theorem authorityWritten_reads (plain : PlainId name) (chars : bundle.Plain) :
    Yaml.EntriesRead (authorityWritten name bundle) := by
  have type : Yaml.PlainSafe secretType.toList := by decide
  have word : Yaml.IsWord "ca".toList := Yaml.isWord_of_forall (by decide) (by decide)
  have named := plainSafe_suffixed plain word
  have authority := inlineWritten_reads (chars bundle.caCertPem (by simp))
  refine ⟨typeKey_reads, plainWritten_reads type, wordKey_reads "name" (by decide) (by decide),
    plainWritten_reads (by simpa using named),
    wordKey_reads "validation_context" (by decide) (by decide), ⟨by simp, ?_⟩, trivial⟩
  exact ⟨wordKey_reads "trusted_ca" (by decide) (by decide), authority, trivial⟩

theorem serves_bundles (strings : ∀ s, json (.str s) = some (tojsonString s))
    {secrets : List (String × Value)}
    (bundled : ∀ s ∈ secrets, (PlainId s.1 ∧ Unescaped escape s.1) ∧
      ∃ bundle, LeafBundle.ofLeaf s.2 = some bundle ∧ bundle.Plain) :
    ServesBundles (valueJinja escape str json) secrets (bundlesOf secrets) := by
  have rendered : ∃ lines, (secrets.mapM fun s =>
        (valueJinja escape str json).secretLines s.1 s.2) = some lines ∧
      lines.flatten.map String.toList = ((bundlesOf secrets).flatMap fun b =>
        [certificateWritten b.1 b.2, authorityWritten b.1 b.2]).flatMap Yaml.itemText := by
    induction secrets with
    | nil => exact ⟨[], rfl, rfl⟩
    | cons s secrets ih =>
        obtain ⟨⟨⟨-, unescaped⟩, bundle, holds, -⟩, others⟩ := List.forall_mem_cons.mp bundled
        obtain ⟨lines, all, same⟩ := ih others
        have first : ((valueJinja escape str json).secretLines s.1 s.2).map
            (·.map String.toList) = _ := secretLines_written strings unescaped holds
        obtain ⟨own, written, text⟩ := Option.map_eq_some_iff.mp first
        refine ⟨own :: lines, by simp [List.mapM_cons, written, all], ?_⟩
        rw [List.flatten_cons, List.map_append, same, text]
        simp [bundlesOf, holds]
  obtain ⟨lines, all, same⟩ := rendered
  have reads : ∀ item ∈ (bundlesOf secrets).flatMap fun b =>
      [certificateWritten b.1 b.2, authorityWritten b.1 b.2],
      item ≠ [] ∧ Yaml.EntriesRead item := by
    intro item member
    obtain ⟨b, among, member⟩ := List.mem_flatMap.mp member
    obtain ⟨secret, stored, made⟩ := List.mem_filterMap.mp among
    obtain ⟨⟨name, -⟩, bundle, holds, chars⟩ := bundled secret stored
    obtain rfl : (secret.1, bundle) = b := by simpa [holds] using made
    simp only [List.mem_cons, List.not_mem_nil, or_false] at member
    rcases member with rfl | rfl
    · exact ⟨by simp [certificateWritten], certificateWritten_reads name chars⟩
    · exact ⟨by simp [authorityWritten], authorityWritten_reads name chars⟩
  refine ⟨output lines.flatten, by rw [renderSecrets, all]; rfl, ?_⟩
  rw [toList_output, same, Yaml.parseTree_written reads, List.map_flatMap]
  rfl

/-! ## From the secret store to Envoy -/

theorem secretNames_nodup {names : List String} (nodup : names.Nodup) :
    (Osb.secretNames names).Nodup := by
  rw [Osb.secretNames, List.nodup_flatMap]
  refine ⟨fun name _ => by simp, nodup.imp fun {a b} other => ?_⟩
  intro secret first second
  simp only [List.mem_cons, List.not_mem_nil, or_false] at first second
  rcases first with rfl | rfl <;> rcases second with same | same
  · exact other (by simpa using same)
  · exact Osb.cert_ne_ca _ _ same
  · exact Osb.cert_ne_ca _ _ same.symm
  · exact other (by simpa using same)

theorem bundlesOf_keys (secrets : List (String × Value)) :
    ((bundlesOf secrets).map (·.1)).Sublist (secrets.map (·.1)) := by
  induction secrets with
  | nil => exact .slnil
  | cons s secrets ih =>
      rw [bundlesOf, List.filterMap_cons]
      cases LeafBundle.ofLeaf s.2 with
      | none => exact ih.cons _
      | some bundle => exact ih.cons_cons _

def Bundled (escape : Char → Line) (jsonLoads : String → Except Exn Value) (key : String)
    (secret : Secret) : Prop :=
  ∃ text, secret = ⟨some text⟩ ∧ (jsonLoads text = .error .jsonDecodeError ∨
    (PlainId key ∧ Unescaped escape key) ∧ ∃ leaf bundle, jsonLoads text = .ok leaf ∧
      LeafBundle.ofLeaf leaf = some bundle ∧ bundle.Plain)

/-- What an uncached call returns of a store of bundles, paged in any way, the template serves: for
each bundle of the store two secrets, of names that no other has, with the texts that are stored. -/
theorem leaves_served {σ : Type} (plugin : SecretsContextPlugin)
    (jsonLoads : String → Except Exn Value) (escape : Char → Line)
    (str json : Value → Option String) (b : SecretStore)
    (pages : List (List String)) (n : Nat) (cache : Option (Cache Value)) (now : ℚ) (s : σ)
    (uncached : fresh plugin.refreshInterval cache now = none)
    (listed : b.Lists plugin.keyPrefix pages) (enough : pages.length ≤ n)
    (strings : ∀ text, json (.str text) = some (tojsonString text))
    (stored : ∀ key secret, b.secrets (plugin.leafPrefix ++ key) = some secret →
      Bundled escape jsonLoads key secret) :
    ∃ payload, Refreshes b.answer SecretsCall.lists plugin.refreshInterval
        (plugin.reader jsonLoads) pages.length n cache now s payload ∧
      (∀ key bundle, (key, bundle) ∈ bundlesOf payload ↔ ∃ text leaf,
        b.secrets (plugin.leafPrefix ++ key) = some ⟨some text⟩ ∧ jsonLoads text = .ok leaf ∧
          LeafBundle.ofLeaf leaf = some bundle) ∧
      (Osb.secretNames ((bundlesOf payload).map (·.1))).Nodup ∧
      ServesBundles (valueJinja escape str json) payload (bundlesOf payload) := by
  have texts : ∀ key, b.secrets (plugin.leafPrefix ++ key) ≠ some ⟨none⟩ := by
    intro key missing
    obtain ⟨text, same, -⟩ := stored key _ missing
    cases same
  have load : plugin.LeavesLoad jsonLoads b := by
    intro key text found
    obtain ⟨text', same, loads⟩ := stored key _ found
    cases same
    rcases loads with fails | ⟨-, leaf, -, loads, -⟩
    · exact .inl (by simp [fails])
    · exact .inr ⟨leaf, loads⟩
  obtain ⟨payload, collected⟩ := (SecretsContextPlugin.leaves_collect_iff listed texts).mpr load
  have leaves := SecretsContextPlugin.isLeaves_of_collect listed collected
  refine ⟨payload, (SecretsContextPlugin.refreshes_collect uncached listed.paged enough).mpr
    collected, fun key bundle => ?_, secretNames_nodup ?_, serves_bundles strings ?_⟩
  · constructor
    · intro member
      obtain ⟨⟨key', leaf⟩, among, made⟩ := List.mem_filterMap.mp member
      obtain ⟨bundle', holds, same⟩ := Option.map_eq_some_iff.mp made
      cases same
      obtain ⟨text, found, loads⟩ := (leaves.entries key' leaf).mp among
      exact ⟨text, leaf, found, loads, holds⟩
    · rintro ⟨text, leaf, found, loads, holds⟩
      exact List.mem_filterMap.mpr ⟨(key, leaf), (leaves.entries key leaf).mpr
        ⟨text, found, loads⟩, by simp [holds]⟩
  · exact leaves.keys.sublist (bundlesOf_keys payload)
  · rintro ⟨key, leaf⟩ member
    obtain ⟨text, found, loads⟩ := (leaves.entries key leaf).mp member
    obtain ⟨text', same, bundled⟩ := stored key _ found
    cases same
    rcases bundled with fails | ⟨plain, leaf', bundle, loads', holds, chars⟩
    · cases fails.symm.trans loads
    · cases loads.symm.trans loads'
      exact ⟨plain, bundle, holds, chars⟩

def envoyText : String :=
  "\x7b\"ca_cert_pem\":\"A+\\n\",\"certificate_pem\":\"C/\\n\",\"private_key_pem\":\"K=\\n\"\x7d"

def loadsEnvoy (text : String) : Except Exn Value :=
  if text = envoyText then
    .ok (.dict [("ca_cert_pem", .str "A+\n"), ("certificate_pem", .str "C/\n"),
      ("private_key_pem", .str "K=\n")])
  else .error .jsonDecodeError

def withEnvoy : SecretStore where
  secrets name := [("regnant/ca/key", ⟨some "private"⟩),
    ("regnant/leaf/envoy", ⟨some envoyText⟩)].lookup name
  listSecrets _ _ token :=
    match token with
    | none => ⟨some ["regnant/ca/key"], some "1"⟩
    | _ => ⟨some ["regnant/leaf/envoy"], none⟩

theorem envoy_leaf_served :
    ∃ payload, Refreshes withEnvoy.answer SecretsCall.lists 60
        (SecretsContextPlugin.reader {} loadsEnvoy) 2 2 none 0 () payload ∧
      (∀ key bundle, (key, bundle) ∈ bundlesOf payload ↔ ∃ text leaf,
        withEnvoy.secrets ("regnant/leaf/" ++ key) = some ⟨some text⟩ ∧
          loadsEnvoy text = .ok leaf ∧ LeafBundle.ofLeaf leaf = some bundle) ∧
      (Osb.secretNames ((bundlesOf payload).map (·.1))).Nodup ∧
      ServesBundles (valueJinja markupEscape plainJson plainJson) payload (bundlesOf payload) := by
  refine leaves_served {} loadsEnvoy _ _ _ withEnvoy [["regnant/ca/key"], ["regnant/leaf/envoy"]] 2
    none 0 () rfl ⟨.more rfl rfl (by decide) (.last rfl rfl), fun name _ found => ?_⟩
    (Nat.le_refl 2) plainJson_str fun key secret found => ?_
  · obtain ⟨secret, member, same⟩ := List.lookup_isSome_iff.mp found
    obtain rfl := beq_iff_eq.mp same
    simp only [List.mem_cons, List.not_mem_nil, or_false] at member
    rcases member with rfl | rfl <;> decide
  · have member : ("regnant/leaf/" ++ key, secret) ∈ _ := Collect.mem_of_lookup found
    simp only [List.mem_cons, Prod.mk.injEq, List.not_mem_nil, or_false] at member
    rcases member with ⟨other, -⟩ | ⟨name, rfl⟩
    · simpa using congrArg (fun s : String => s.toList.take 9) other
    · obtain rfl : key = "envoy" := by
        have rest := congrArg (fun s : String => s.toList.drop 13) name
        exact String.toList_inj.mp (by simpa using rest)
      exact ⟨envoyText, rfl, .inr ⟨⟨by decide, by decide⟩, _, _, if_pos rfl, rfl, by decide⟩⟩

end Regnant.Sovereign
