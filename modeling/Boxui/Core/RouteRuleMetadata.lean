import Boxui.Core.RouteDefaults
import Boxui.Library.GoStrings
import Boxui.Library.Occurrences

/-! Names and descriptions of route rules. They are kept beside the configuration, each with
the fingerprint of its rule, and found again by fingerprint or else by position. -/
namespace Boxui.Core
open GoValue GoStrings Occurrences

variable {Bytes : Type*}

structure RouteRuleMetadata where
  name : String
  description : String
  deriving DecidableEq, Repr

structure StoredRouteRuleMetadata where
  fingerprint : String
  name : String
  description : String
  deriving DecidableEq, Repr

/-- What the bucket holds under the key of the rules. -/
structure RouteRuleMetadataBucket where
  rules : Option (List StoredRouteRuleMetadata)

/-- `json.Marshal`, and the SHA-256 digest of bytes in hexadecimal. -/
structure Digest (Bytes : Type*) where
  marshal : Value → Bytes
  sum256 : Bytes → String

def maxRouteRuleNameLength : Nat := 100

def maxRouteRuleDescriptionLength : Nat := 500

def errInvalidRouteRuleMetadata (message : String) : String :=
  "invalid route rule metadata: " ++ message

def routeRuleFingerprint (d : Digest Bytes) (rule : Value) : String := d.sum256 (d.marshal rule)

def publicRouteRuleMetadata (entry : StoredRouteRuleMetadata) : RouteRuleMetadata :=
  ⟨entry.name, entry.description⟩

def trimmed (metadata : RouteRuleMetadata) : RouteRuleMetadata :=
  ⟨trimSpace metadata.name, trimSpace metadata.description⟩

/-- The lengths count runes. -/
def validateRouteRuleMetadata (metadata : RouteRuleMetadata) : Except String RouteRuleMetadata :=
  let metadata := trimmed metadata
  if maxRouteRuleNameLength < metadata.name.length then
    .error (errInvalidRouteRuleMetadata "route rule name is too long")
  else if maxRouteRuleDescriptionLength < metadata.description.length then
    .error (errInvalidRouteRuleMetadata "route rule description is too long")
  else .ok metadata

namespace RouteRuleMetadataManager

def stored (bucket : RouteRuleMetadataBucket) : List StoredRouteRuleMetadata :=
  bucket.rules.getD []

/-- The inner loop of the first pass: the first unused entry with the fingerprint. -/
def matchStored (stored : List StoredRouteRuleMetadata) (used : List Bool)
    (fingerprint : String) : Option Nat :=
  (stored.zip used).findIdx? fun p => !p.2 && p.1.fingerprint == fingerprint

/-- The first pass: for each rule the stored entry it matches, and which entries are used. -/
def matchRules (stored : List StoredRouteRuleMetadata) :
    List String → List Bool → List (Option Nat) × List Bool
  | [], used => ([], used)
  | fingerprint :: fingerprints, used =>
    match matchStored stored used fingerprint with
    | none =>
      let rest := matchRules stored fingerprints used
      (none :: rest.1, rest.2)
    | some storedIndex =>
      let rest := matchRules stored fingerprints (used.set storedIndex true)
      (some storedIndex :: rest.1, rest.2)

/-- The second pass: an unmatched rule takes the entry at its own index if that is unused. -/
def keepInPlace : Nat → List (Option Nat) → List Bool → List (Option Nat)
  | _, [], _ => []
  | index, source :: sources, used =>
    if source = none ∧ used[index]? = some false then
      some index :: keepInPlace (index + 1) sources (used.set index true)
    else source :: keepInPlace (index + 1) sources used

def list (d : Digest Bytes) (rules : List Value) (bucket : RouteRuleMetadataBucket) :
    List RouteRuleMetadata :=
  let stored := stored bucket
  let (sources, used) :=
    matchRules stored (rules.map (routeRuleFingerprint d)) (stored.map fun _ => false)
  (keepInPlace 0 sources used).map fun source =>
    ((source.bind (stored[·]?)).map publicRouteRuleMetadata).getD ⟨"", ""⟩

/-- The loop of `save` over the rules and their metadata. -/
def validatedEntries (d : Digest Bytes) : List Value → List RouteRuleMetadata →
    Except String (List StoredRouteRuleMetadata)
  | rule :: rules, metadata :: rest => do
    let validated ← validateRouteRuleMetadata metadata
    let entries ← validatedEntries d rules rest
    return ⟨routeRuleFingerprint d rule, validated.name, validated.description⟩ :: entries
  | _, _ => return []

def save (d : Digest Bytes) (rules : List Value) (metadata : List RouteRuleMetadata)
    (bucket : RouteRuleMetadataBucket) : Except String RouteRuleMetadataBucket := do
  if rules.length ≠ metadata.length then
    throw (errInvalidRouteRuleMetadata "metadata count does not match rules")
  let stored ← validatedEntries d rules metadata
  return { bucket with rules := some stored }

def ruleSetTag (rule : Object) : String :=
  match rule["rule_set"]? with
  | some (.strs (tag :: _)) => tag
  | some (.list (tag :: _)) => tag.asStr?.getD ""
  | _ => ""

def defaultRouteRuleName (formatFloat : Rat → String) (rule : Object) : String :=
  let action := Object.stringAt rule "action"
  let network := Object.stringAt rule "network"
  if action = "sniff" then "协议嗅探"
  else if Object.stringAt rule "protocol" = "dns" ∧ action = "hijack-dns" then "DNS 请求劫持"
  else
    match rule["ip_is_private"]? with
    | some (.bool true) => "私有地址直连"
    | _ =>
      if network = "icmp" then "ICMP 流量直连"
      else if network = "udp" ∧
          DefaultRouteInstaller.portValue formatFloat rule["port"]? = "443" ∧
          action = "reject" then
        "QUIC 流量拦截"
      else
        match ruleSetTag rule with
        | "loyalsoldier-reject" | "geosite-category-ads-all" => "广告流量拦截"
        | "loyalsoldier-direct" | "geosite-cn" => "中国域名直连"
        | "geoip-cn" => "中国 IP 直连"
        | "loyalsoldier-proxy" => "代理列表流量走代理"
        | "geosite-google-play" => "Google Play 流量走代理"
        | _ => ""

/-- A rule that has no name yet gets its default one. -/
def withDefaultName (formatFloat : Rat → String) (metadata : RouteRuleMetadata) (rule : Value) :
    RouteRuleMetadata :=
  if metadata.name ≠ "" then metadata
  else
    match rule.asMap? with
    | none => metadata
    | some object => { metadata with name := defaultRouteRuleName formatFloat object }

def applyDefaultNames (d : Digest Bytes) (formatFloat : Rat → String) (rules : List Value)
    (bucket : RouteRuleMetadataBucket) : Except String RouteRuleMetadataBucket :=
  save d rules (List.zipWith (withDefaultName formatFloat) (list d rules bucket) rules) bucket

/-- The default names are given once: the key beside the rules' records that they were. A
failing write leaves the flag, and the names when it is the write of the flag that fails. -/
def initializeDefaultNames (d : Digest Bytes) (formatFloat : Rat → String) (rules : List Value)
    (markFails initialized : Bool) (bucket : RouteRuleMetadataBucket) :
    Bool × RouteRuleMetadataBucket × Except String Unit :=
  if initialized then (true, bucket, .ok ())
  else
    match applyDefaultNames d formatFloat rules bucket with
    | .error e => (false, bucket, .error e)
    | .ok bucket =>
      if markFails then
        (false, bucket, .error "marking route rule metadata initialized")
      else (true, bucket, .ok ())

theorem matchStored_marks (stored : List StoredRouteRuleMetadata) (served : List String)
    (fingerprint : String) :
    matchStored stored (marks (stored.map (·.fingerprint)) served) fingerprint =
      if served.count fingerprint < (stored.map (·.fingerprint)).count fingerprint then
        some ((stored.map (·.fingerprint)).idxOfNth fingerprint (served.count fingerprint))
      else none := by
  rw [← findIdx?_marks]
  conv_rhs => rw [List.zip_map_left, List.findIdx?_map]
  rfl

/-- After the rules in `served`, each key has used as many entries as it has occurred. -/
theorem matchRules_eq (stored : List StoredRouteRuleMetadata) (fingerprints served : List String) :
    matchRules stored fingerprints (marks (stored.map (·.fingerprint)) served) =
      (fingerprints.mapIdx fun i x =>
        if served.count x + fingerprints.countBefore x i <
            (stored.map (·.fingerprint)).count x then
          some ((stored.map (·.fingerprint)).idxOfNth x
            (served.count x + fingerprints.countBefore x i))
        else none,
      marks (stored.map (·.fingerprint)) (served ++ fingerprints)) := by
  induction fingerprints generalizing served with
  | nil => simp [matchRules]
  | cons fingerprint fingerprints ih =>
    have hcount (x : String) (i : Nat) :
        (served ++ [fingerprint]).count x + fingerprints.countBefore x i =
          served.count x + (fingerprint :: fingerprints).countBefore x (i + 1) := by
      rw [List.count_append, List.count_singleton, List.countBefore_cons_succ]
      omega
    have hrest := ih (served ++ [fingerprint])
    simp only [hcount, List.append_assoc, List.singleton_append] at hrest
    simp only [matchRules, matchStored_marks, List.mapIdx_cons, List.countBefore_zero,
      Nat.add_zero]
    by_cases hmore : served.count fingerprint < (stored.map (·.fingerprint)).count fingerprint
    · simp only [hmore, if_true, marks_set _ _ hmore, hrest]
    · simp only [hmore, if_false]
      rw [← marks_append_of_exhausted _ _ (Nat.le_of_not_lt hmore), hrest]

theorem keepInPlace_eq (start : Nat) (sources : List (Option Nat)) (used : List Bool) :
    keepInPlace start sources used = sources.mapIdx fun i source =>
      if source = none ∧ used[start + i]? = some false then some (start + i) else source := by
  induction sources generalizing start used with
  | nil => rfl
  | cons source sources ih =>
    have hlater (i : Nat) : (used.set start true)[start + (i + 1)]? = used[start + (i + 1)]? := by
      rw [List.getElem?_set_ne (by omega)]
    simp only [keepInPlace, ih, List.mapIdx_cons, Nat.add_zero, Nat.add_assoc, Nat.add_comm 1,
      hlater]
    split_ifs <;> rfl

/-- The rules take the stored entries over by fingerprint. -/
theorem list_eq (d : Digest Bytes) (rules : List Value) (bucket : RouteRuleMetadataBucket) :
    list d rules bucket =
      (carried ((stored bucket).map (·.fingerprint)) (rules.map (routeRuleFingerprint d))).map
        fun source =>
          ((source.bind ((stored bucket)[·]?)).map publicRouteRuleMetadata).getD ⟨"", ""⟩ := by
  have hfree : ((stored bucket).map fun _ => false) =
      marks ((stored bucket).map (·.fingerprint)) [] := by
    rw [marks_nil, List.map_map]
    rfl
  unfold list
  dsimp only
  rw [hfree, matchRules_eq]
  simp only [keepInPlace_eq, List.count_nil, Nat.zero_add, List.nil_append]
  rfl

theorem validatedEntries_ok {d : Digest Bytes} {rules : List Value}
    {metadata : List RouteRuleMetadata} {entries : List StoredRouteRuleMetadata}
    (hlen : rules.length = metadata.length) (h : validatedEntries d rules metadata = .ok entries) :
    entries.map (·.fingerprint) = rules.map (routeRuleFingerprint d) ∧
      entries.map publicRouteRuleMetadata = metadata.map trimmed := by
  induction rules generalizing metadata entries with
  | nil =>
    obtain rfl := List.length_eq_zero_iff.mp hlen.symm
    obtain rfl : [] = entries := Except.ok.inj h
    exact ⟨rfl, rfl⟩
  | cons rule rules ih =>
    cases metadata with
    | nil => cases hlen
    | cons head rest =>
      simp only [validatedEntries, bind_eq_ok_iff] at h
      obtain ⟨validated, hvalidated, entries', hentries, h⟩ := h
      obtain rfl : _ = entries := Except.ok.inj h
      have hhead : validated = trimmed head := by
        unfold validateRouteRuleMetadata at hvalidated
        dsimp only at hvalidated
        split_ifs at hvalidated
        exact (Except.ok.inj hvalidated).symm
      obtain ⟨hfingerprints, hpublic⟩ := ih (Nat.succ.inj hlen) hentries
      simp only [List.map_cons, hfingerprints, hpublic, hhead, true_and]
      rfl

theorem save_ok {d : Digest Bytes} {rules : List Value} {metadata : List RouteRuleMetadata}
    {bucket bucket' : RouteRuleMetadataBucket} (h : save d rules metadata bucket = .ok bucket') :
    (stored bucket').map (·.fingerprint) = rules.map (routeRuleFingerprint d) ∧
      (stored bucket').map publicRouteRuleMetadata = metadata.map trimmed := by
  unfold save at h
  by_cases hlen : rules.length = metadata.length
  · rw [if_neg (not_not.mpr hlen)] at h
    obtain ⟨entries, hentries, h⟩ := (bind_eq_ok_iff _ _ _).mp h
    obtain rfl : _ = bucket' := Except.ok.inj h
    exact validatedEntries_ok hlen hentries
  · rw [if_pos hlen] at h
    cases h

/-- Encoding a default rule as it was built in memory gives the bytes of the decoded rule. -/
def EncodesDefaults (d : Digest Bytes) : Prop :=
  ∀ ruleSets outbounds, ∀ rule ∈ DefaultRouteInstaller.defaults ruleSets outbounds,
    d.marshal (Object.toValue rule).json = d.marshal (Object.toValue rule)

@[simp] theorem length_list (d : Digest Bytes) (rules : List Value)
    (bucket : RouteRuleMetadataBucket) : (list d rules bucket).length = rules.length := by
  rw [list_eq, List.length_map, (carries_carried _ _).length_eq, List.length_map]

/-- Rules are told apart by their fingerprints alone. -/
theorem list_congr {d : Digest Bytes} {rules rules' : List Value}
    (h : rules'.map (routeRuleFingerprint d) = rules.map (routeRuleFingerprint d))
    (bucket : RouteRuleMetadataBucket) : list d rules' bucket = list d rules bucket := by
  rw [list_eq, list_eq, h]

/-- What was just saved for the rules is listed for them. -/
theorem list_of_save {d : Digest Bytes} {rules : List Value} {metadata : List RouteRuleMetadata}
    {bucket bucket' : RouteRuleMetadataBucket} (h : save d rules metadata bucket = .ok bucket') :
    list d rules bucket' = metadata.map trimmed := by
  obtain ⟨hfingerprints, hpublic⟩ := save_ok h
  rw [list_eq, hfingerprints, (carries_carried _ _).self, List.length_map, ← hpublic]
  have hlen : rules.length = (stored bucket').length := by
    simpa using (congrArg List.length hfingerprints).symm
  apply List.ext_getElem
  · simp [hlen]
  · intro i hi hi'
    have hbound : i < (stored bucket').length := by simpa using hi'
    simp [hbound]

/-- Rules added at the end count as unnamed when no entry is left over for them: there are no
more entries than rules before, and none of their fingerprints beyond those of these rules. -/
theorem list_append {d : Digest Bytes} {rules extra : List Value}
    {bucket : RouteRuleMetadataBucket} (hlen : (stored bucket).length ≤ rules.length)
    (hextra : ∀ rule ∈ extra,
      ((stored bucket).map (·.fingerprint)).count (routeRuleFingerprint d rule) ≤
        (rules.map (routeRuleFingerprint d)).count (routeRuleFingerprint d rule)) :
    list d (rules ++ extra) bucket = list d rules bucket ++ extra.map fun _ => ⟨"", ""⟩ := by
  have hcarried : carried ((stored bucket).map (·.fingerprint))
      (rules.map (routeRuleFingerprint d) ++ extra.map (routeRuleFingerprint d)) =
        carried ((stored bucket).map (·.fingerprint)) (rules.map (routeRuleFingerprint d)) ++
          (extra.map (routeRuleFingerprint d)).map fun _ => none :=
    carried_append (by simpa using hlen) (by simpa using hextra)
  rw [list_eq, list_eq, List.map_append, hcarried, List.map_append, List.map_map, List.map_map]
  rfl

@[simp] theorem trimmed_trimmed (metadata : RouteRuleMetadata) :
    trimmed (trimmed metadata) = trimmed metadata := by
  simp [trimmed]

theorem trimSpace_defaultRouteRuleName (formatFloat : Rat → String) (rule : Object) :
    trimSpace (defaultRouteRuleName formatFloat rule) = defaultRouteRuleName formatFloat rule := by
  unfold defaultRouteRuleName
  dsimp only
  split
  · rfl
  · split
    · rfl
    · split
      · rfl
      · split
        · rfl
        · split
          · rfl
          · split <;> rfl

/-- A default name is stored as it is given. -/
theorem trimmed_withDefaultName {formatFloat : Rat → String} {metadata : RouteRuleMetadata}
    (h : trimmed metadata = metadata) (rule : Value) :
    trimmed (withDefaultName formatFloat metadata rule) =
      withDefaultName formatFloat metadata rule := by
  unfold withDefaultName
  split_ifs
  · exact h
  · cases hobject : rule.asMap? with
    | none => exact h
    | some object =>
      have hdescription := congrArg RouteRuleMetadata.description h
      simp only [trimmed] at hdescription ⊢
      rw [trimSpace_defaultRouteRuleName, hdescription]

/-- Every entry is as `save` writes it. -/
def Trimmed (bucket : RouteRuleMetadataBucket) : Prop :=
  ∀ entry ∈ stored bucket, trimmed (publicRouteRuleMetadata entry) = publicRouteRuleMetadata entry

theorem Trimmed.of_save {d : Digest Bytes} {rules : List Value}
    {metadata : List RouteRuleMetadata} {bucket bucket' : RouteRuleMetadataBucket}
    (h : save d rules metadata bucket = .ok bucket') : Trimmed bucket' := by
  intro entry hentry
  have hmem : publicRouteRuleMetadata entry ∈ metadata.map trimmed := by
    rw [← (save_ok h).2]
    exact List.mem_map_of_mem hentry
  obtain ⟨entered, -, hentered⟩ := List.mem_map.mp hmem
  rw [← hentered, trimmed_trimmed]

theorem Trimmed.list {bucket : RouteRuleMetadataBucket} (h : Trimmed bucket) (d : Digest Bytes)
    (rules : List Value) : ∀ metadata ∈ list d rules bucket, trimmed metadata = metadata := by
  intro metadata hmetadata
  rw [list_eq] at hmetadata
  obtain ⟨source, -, rfl⟩ := List.mem_map.mp hmetadata
  cases hentry : source.bind ((stored bucket)[·]?) with
  | none => rfl
  | some entry =>
    obtain ⟨index, -, hindex⟩ := Option.bind_eq_some_iff.mp hentry
    exact h entry (List.mem_of_getElem? hindex)

theorem map_trimmed {metadata : List RouteRuleMetadata}
    (h : ∀ entered ∈ metadata, trimmed entered = entered) : metadata.map trimmed = metadata := by
  conv_rhs => rw [← List.map_id metadata]
  exact List.map_congr_left h

/-- The default names are listed as they were given. -/
theorem list_of_applyDefaultNames {d : Digest Bytes} {formatFloat : Rat → String}
    {rules : List Value} {bucket bucket' : RouteRuleMetadataBucket} (htrimmed : Trimmed bucket)
    (h : applyDefaultNames d formatFloat rules bucket = .ok bucket') :
    list d rules bucket' =
      List.zipWith (withDefaultName formatFloat) (list d rules bucket) rules := by
  rw [list_of_save h]
  apply map_trimmed
  intro metadata hmetadata
  rw [← List.map_uncurry_zip_eq_zipWith] at hmetadata
  obtain ⟨⟨listed, rule⟩, hmem, rfl⟩ := List.mem_map.mp hmetadata
  exact trimmed_withDefaultName (htrimmed.list d rules listed (List.of_mem_zip hmem).1) rule

theorem initializeDefaultNames_ok {d : Digest Bytes} {formatFloat : Rat → String}
    {rules : List Value} {markFails initialized initialized' : Bool}
    {bucket bucket' : RouteRuleMetadataBucket}
    (h : initializeDefaultNames d formatFloat rules markFails initialized bucket =
      (initialized', bucket', .ok ())) :
    initialized' = true ∧ (initialized = true ∧ bucket' = bucket ∨
      initialized = false ∧ applyDefaultNames d formatFloat rules bucket = .ok bucket') := by
  unfold initializeDefaultNames at h
  cases initialized with
  | true =>
    cases h
    exact ⟨rfl, .inl ⟨rfl, rfl⟩⟩
  | false =>
    rw [if_neg Bool.false_ne_true] at h
    cases hnames : applyDefaultNames d formatFloat rules bucket with
    | error e =>
      rw [hnames] at h
      cases h
    | ok named =>
      rw [hnames] at h
      cases markFails <;> cases h
      exact ⟨rfl, .inr ⟨rfl, rfl⟩⟩

/-- On these rules a digest identifies the JSON document of a rule, whether the rule was
decoded or built in memory. -/
structure Faithful (d : Digest Bytes) (rules : List Value) : Prop where
  marshal_eq_iff : ∀ v ∈ rules, ∀ w ∈ rules, d.marshal v = d.marshal w ↔ v.json = w.json
  sum256_injective : ∀ v ∈ rules, ∀ w ∈ rules,
    d.sum256 (d.marshal v) = d.sum256 (d.marshal w) → d.marshal v = d.marshal w

theorem Faithful.fingerprint_eq_iff {d : Digest Bytes} {rules : List Value}
    (h : Faithful d rules) : ∀ v ∈ rules, ∀ w ∈ rules,
      routeRuleFingerprint d v = routeRuleFingerprint d w ↔ v.json = w.json := by
  intro v hv w hw
  rw [← h.marshal_eq_iff v hv w hw]
  exact ⟨h.sum256_injective v hv w hw, congrArg d.sum256⟩

open Classical in
/-- What is saved for a list of rules is listed for any later list: by rule, occurrence by
occurrence, and for the rules left over by position. -/
theorem list_save (d : Digest Bytes) {rules rules' : List Value}
    {metadata : List RouteRuleMetadata} {bucket bucket' : RouteRuleMetadataBucket}
    (hfaithful : Faithful d (rules ++ rules'))
    (hsave : save d rules metadata bucket = .ok bucket') :
    (∃ carried, Carries (rules.map Value.json) (rules'.map Value.json) carried ∧
      list d rules' bucket' = carried.map fun source =>
        (source.bind ((metadata.map trimmed)[·]?)).getD ⟨"", ""⟩) ∧
    (rules'.map Value.json = rules.map Value.json →
      list d rules' bucket' = metadata.map trimmed) ∧
    ((rules.map Value.json).Nodup → (rules'.map Value.json).Nodup →
      ∀ (i j : Nat) (hi : i < rules'.length) (hj : j < rules.length),
        rules'[i].json = rules[j].json →
          (list d rules' bucket')[i]? = (metadata.map trimmed)[j]?) := by
  obtain ⟨hfingerprints, hpublic⟩ := save_ok hsave
  set carried := Occurrences.carried (rules.map (routeRuleFingerprint d))
    (rules'.map (routeRuleFingerprint d)) with hcarried
  have hcarries : Carries (rules.map Value.json) (rules'.map Value.json) carried :=
    (carries_carried _ _).map_congr hfaithful.fingerprint_eq_iff
  have hlist : list d rules' bucket' = carried.map fun source =>
      (source.bind ((metadata.map trimmed)[·]?)).getD ⟨"", ""⟩ := by
    rw [list_eq, hfingerprints, ← hpublic]
    apply List.map_congr_left
    intro source _
    cases source <;> simp
  have hlen : metadata.length = rules.length := by
    have h := congrArg List.length hfingerprints
    have h' := congrArg List.length hpublic
    simp only [List.length_map] at h h'
    omega
  refine ⟨⟨carried, hcarries, hlist⟩, ?_, ?_⟩
  · intro hsame
    rw [hsame] at hcarries
    rw [hlist, hcarries.self, List.length_map, List.map_map, ← hlen]
    apply List.ext_getElem
    · simp
    · intro i hi hi'
      have hbound : i < metadata.length := by simpa using hi
      simp [hbound]
  · intro hold hnew i j hi hj hrule
    have hsource := hcarries.of_nodup hold hnew (i := i) (j := j) (by simpa) (by simpa)
      (by simpa using hrule)
    have hbound : j < metadata.length := by omega
    rw [hlist, List.getElem?_map, hsource]
    simp [hbound]

def sniffRule : Value := .obj [("action", .str "sniff")]

def hijackRule : Value := .obj [("action", .str "hijack-dns"), ("protocol", .str "dns")]

/-- The encoding and the digests of the two rules. -/
def sampleDigest : Digest String where
  marshal rule := match rule with
    | .obj [(k, .str v)] => "\x7b\"" ++ k ++ "\":\"" ++ v ++ "\"\x7d"
    | .obj [(k, .str v), (k', .str v')] =>
      "\x7b\"" ++ k ++ "\":\"" ++ v ++ "\",\"" ++ k' ++ "\":\"" ++ v' ++ "\"\x7d"
    | _ => "null"
  sum256 data :=
    if data = "\x7b\"action\":\"sniff\"\x7d" then
      "e23495c7cc809f22f271f8cca842b7f2d81e2fa8e4962670bba224f655473aa2"
    else if data = "\x7b\"action\":\"hijack-dns\",\"protocol\":\"dns\"\x7d" then
      "9f9e265b9aa2ffeffa66680232d1acbff6f5cde14c4b6b13030bf6e9e5fae3b9"
    else "74234e98afe7498fb5daf1f36ac2d78acc339464f950703b8c019892f982b90b"

def sampleBucket : RouteRuleMetadataBucket :=
  ⟨some [⟨routeRuleFingerprint sampleDigest sniffRule, "协议嗅探", "识别协议"⟩,
    ⟨routeRuleFingerprint sampleDigest hijackRule, "DNS 请求劫持", ""⟩]⟩

/-- Two named rules change places and keep their names. -/
theorem swapped_list_save :
    (list sampleDigest [hijackRule, sniffRule] sampleBucket)[0]? = some ⟨"DNS 请求劫持", ""⟩ ∧
    (list sampleDigest [hijackRule, sniffRule] sampleBucket)[1]? =
      some ⟨"协议嗅探", "识别协议"⟩ := by
  have hne : sniffRule.json ≠ hijackRule.json := by
    intro h
    have haction := congrArg (fun rule => (rule.asMap?.getD ∅).stringAt "action") h
    exact absurd haction (by decide)
  have hmarshal : sampleDigest.marshal sniffRule ≠ sampleDigest.marshal hijackRule := by decide
  have hsum : routeRuleFingerprint sampleDigest sniffRule ≠
      routeRuleFingerprint sampleDigest hijackRule := by decide
  have hfaithful : Faithful sampleDigest
      ([sniffRule, hijackRule] ++ [hijackRule, sniffRule]) := by
    constructor
    · intro v hv w hw
      simp only [List.cons_append, List.nil_append, List.mem_cons, List.not_mem_nil,
        or_false] at hv hw
      rcases hv with rfl | rfl | rfl | rfl <;> rcases hw with rfl | rfl | rfl | rfl <;>
        simp [hne, hne.symm, hmarshal, hmarshal.symm]
    · intro v hv w hw heq
      simp only [List.cons_append, List.nil_append, List.mem_cons, List.not_mem_nil,
        or_false] at hv hw
      rcases hv with rfl | rfl | rfl | rfl <;> rcases hw with rfl | rfl | rfl | rfl <;>
        first | rfl | exact absurd heq hsum | exact absurd heq hsum.symm
  have hsave : save sampleDigest [sniffRule, hijackRule]
      [⟨" 协议嗅探", "识别协议\n"⟩, ⟨"DNS 请求劫持", ""⟩] ⟨none⟩ = .ok sampleBucket := by rfl
  obtain ⟨-, -, hlist⟩ := list_save sampleDigest hfaithful hsave
  have hold : ([sniffRule, hijackRule].map Value.json).Nodup := by simpa using hne
  have hnew : ([hijackRule, sniffRule].map Value.json).Nodup := by simpa using hne.symm
  exact ⟨hlist hold hnew 0 1 (by decide) (by decide) rfl,
    hlist hold hnew 1 0 (by decide) (by decide) rfl⟩

end RouteRuleMetadataManager

end Boxui.Core
