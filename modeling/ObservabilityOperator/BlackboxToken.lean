import ObservabilityOperator.JoinedText
import ObservabilityOperator.PrometheusConfig
import Mathlib.Data.List.DropRight

/-!
# The bearer token of the blackbox exporter

The configuration of the blackbox exporter is YAML, and it is rendered with a
template engine for HTML.  The token in it is escaped as if it stood in a web
page, where a plus sign becomes a character reference.  The reader of the
configuration takes the reference for part of the token.
-/

namespace ObservabilityOperator

variable {platform : Platform}

def htmlReplacement (char : Char) : List Char :=
  if char = '&' then "&amp;".toList
  else if char = '<' then "&lt;".toList
  else if char = '>' then "&gt;".toList
  else if char = '"' then "&#34;".toList
  else if char = YamlFlow.quoteMark then "&#39;".toList
  else if char = '+' then "&#43;".toList
  else if char = Char.ofNat 0 then [Char.ofNat 0xFFFD]
  else [char]

def htmlEscaped (text : List Char) : List Char :=
  text.flatMap htmlReplacement

/-- The platform escapes text as `htmlEscaped` does. -/
def Platform.EscapesHtml (platform : Platform) : Prop :=
  ∀ text, platform.htmlEscape text = String.ofList (htmlEscaped text.toList)

theorem length_pos_htmlReplacement (char : Char) :
    0 < (htmlReplacement char).length := by
  unfold htmlReplacement
  split_ifs <;> simp

theorem length_le_htmlEscaped (text : List Char) :
    text.length ≤ (htmlEscaped text).length := by
  induction text with
  | nil => simp
  | cons char rest ih =>
    have hchar := length_pos_htmlReplacement char
    simp only [htmlEscaped, List.flatMap_cons, List.length_append,
      List.length_cons] at ih ⊢
    omega

theorem length_lt_htmlEscaped {text : List Char} (hplus : '+' ∈ text) :
    text.length < (htmlEscaped text).length := by
  obtain ⟨first, rest, rfl⟩ := List.append_of_mem hplus
  have hfirst := length_le_htmlEscaped first
  have hrest := length_le_htmlEscaped rest
  have hsign : (htmlReplacement '+').length = 5 := by decide
  simp only [htmlEscaped, List.flatMap_append, List.flatMap_cons,
    List.length_append, List.length_cons, hsign] at hfirst hrest ⊢
  omega

/-! ## Plain scalars -/

namespace YamlPlain

open YamlFlow

variable {text : List Char}

def isIndicator (char : Char) : Bool :=
  char ∈ "-?:,[]\x7b\x7d#&*!|>'\"%@`".toList

/-- Three of the indicators may stand at the beginning if something follows
them directly. -/
def startsPlain : List Char → Bool
  | [] => false
  | first :: rest =>
    !isIndicator first ||
      (first ∈ "-?:".toList && (rest.head?.map isBlank) = some false)

/-- The characters of a scalar up to a comment, to a colon that ends a key or
to the end of the line. -/
def plainContent : Char → List Char → List Char
  | _, [] => []
  | previous, char :: rest =>
    if (char = '#' ∧ isBlank previous) ∨
      (char = ':' ∧ (rest.head?.map isBlank) ≠ some false) then []
    else char :: plainContent char rest

/-- The plain scalar on the rest of a line.  A line without one stands for the
empty scalar. -/
def readPlainScalar (line : List Char) : Option (List Char) :=
  match line.dropWhile isBlank with
  | [] => some []
  | first :: rest =>
    if first = '#' then some []
    else if startsPlain (first :: rest) then
      some ((plainContent ' ' (first :: rest)).rdropWhile isBlank)
    else none

def IsUnbroken (text : List Char) : Prop :=
  ∀ char ∈ text, isBlank char = false ∧ char ≠ ':'

theorem plainContent_of_isUnbroken {previous : Char} (htext : IsUnbroken text)
    (hprevious : isBlank previous = true → text.head? ≠ some '#') :
    plainContent previous text = text := by
  induction text generalizing previous with
  | nil => rfl
  | cons char rest ih =>
    obtain ⟨hblank, hcolon⟩ := htext char List.mem_cons_self
    have hstart : ¬ (char = '#' ∧ isBlank previous = true) := by
      rintro ⟨rfl, hbefore⟩
      exact hprevious hbefore rfl
    rw [plainContent, if_neg (by simp [hstart, hcolon]),
      ih (fun other hother => htext other (List.mem_cons_of_mem _ hother))
        fun hbefore => by simp [hblank] at hbefore]

theorem rdropWhile_of_isUnbroken (htext : IsUnbroken text) :
    text.rdropWhile isBlank = text := by
  rw [List.rdropWhile_eq_self_iff]
  intro hne
  simp [(htext _ (List.getLast_mem hne)).1]

theorem readPlainScalar_of_isUnbroken (htext : IsUnbroken text)
    (hcomment : text.head? ≠ some '#') :
    readPlainScalar text =
      if text = [] ∨ startsPlain text = true then some text else none := by
  cases text with
  | nil => simp [readPlainScalar]
  | cons first rest =>
    have hfirst := (htext first List.mem_cons_self).1
    have hplain : plainContent ' ' (first :: rest) = first :: rest :=
      plainContent_of_isUnbroken htext fun _ => hcomment
    have hhash : first ≠ '#' := by simpa using hcomment
    simp only [readPlainScalar, List.dropWhile_cons, hfirst,
      Bool.false_eq_true, if_false, if_neg hhash, hplain,
      rdropWhile_of_isUnbroken htext, reduceCtorEq, false_or]

end YamlPlain

/-! ## The line with the token -/

def isTokenChar (char : Char) : Bool :=
  char.isAlphanum || char ∈ "-._~+/=".toList

/-- The text consists of the characters of a bearer token. -/
def IsBearerToken (token : String) : Prop :=
  ∀ char ∈ token.toList, isTokenChar char = true

def blackBoxHeader : String :=
  "modules:\n" ++
  "  http_extern_2xx:\n" ++
  "    prober: http\n" ++
  "    http:\n" ++
  "      preferred_ip_protocol: ip4\n"

def blackBoxModule (selfSignedCerts : Bool) : String :=
  "\n" ++
  "    prober: http\n" ++
  "    http:\n" ++
  "      preferred_ip_protocol: ip4" ++
  (if selfSignedCerts then blackBoxTlsConfig else "") ++ "\n      "

def blackBoxFooter (selfSignedCerts : Bool) : String :=
  "\n" ++
  "  http_post_2xx:\n" ++
  "    prober: http\n" ++
  "    http:\n" ++
  "      method: POST\n" ++
  "      preferred_ip_protocol: ip4" ++
  if selfSignedCerts then blackBoxTlsConfig else ""

theorem toList_blackBoxConfig (platform : Platform) (selfSignedCerts : Bool)
    (token : String) :
    (blackBoxConfig platform selfSignedCerts (some token)).toList =
      blackBoxHeader.toList ++ ("  http_2xx:".toList ++
        ((blackBoxModule selfSignedCerts).toList ++
          ("bearer_token: ".toList ++ ((platform.htmlEscape token).toList ++
            (blackBoxFooter selfSignedCerts).toList)))) := by
  have hmodule : "  http_2xx:\n".toList =
      "  http_2xx:".toList ++ "\n".toList := by decide
  have htoken : "\n      bearer_token: ".toList =
      "\n      ".toList ++ "bearer_token: ".toList := by decide
  unfold blackBoxConfig blackBoxHeader blackBoxModule blackBoxFooter
  simp only [String.toList_append, List.append_assoc]
  rw [hmodule, htoken]
  simp only [List.append_assoc]

def bearerTokenLine (config : String) : Option (List Char) :=
  ((GoStrings.afterFirst "  http_2xx:".toList config.toList).bind
    (GoStrings.afterFirst "bearer_token: ".toList)).map
      fun text => text.takeWhile fun char => !YamlFlow.isBreak char

def readBearerToken (config : String) : Option String :=
  ((bearerTokenLine config).bind YamlPlain.readPlainScalar).map String.ofList

theorem bearerTokenLine_blackBoxConfig {selfSignedCerts : Bool} {token : String}
    (hline : ∀ char ∈ (platform.htmlEscape token).toList,
      YamlFlow.isBreak char = false) :
    bearerTokenLine (blackBoxConfig platform selfSignedCerts (some token)) =
      some (platform.htmlEscape token).toList := by
  have hheader : GoStrings.isClearOf "  http_2xx:".toList
      blackBoxHeader.toList = true := by
    unfold blackBoxHeader
    simp only [String.toList_append]
    decide +kernel
  have hmodule : GoStrings.isClearOf "bearer_token: ".toList
      (blackBoxModule selfSignedCerts).toList = true := by
    unfold blackBoxModule blackBoxTlsConfig
    simp only [String.toList_append]
    cases selfSignedCerts <;> decide +kernel
  obtain ⟨footer, hfooter⟩ :
      ∃ footer, (blackBoxFooter selfSignedCerts).toList = '\n' :: footer := by
    unfold blackBoxFooter
    simp only [String.toList_append, List.append_assoc]
    exact ⟨_, rfl⟩
  rw [bearerTokenLine, toList_blackBoxConfig,
    GoStrings.afterFirst_append (by decide) hheader, Option.bind_some,
    GoStrings.afterFirst_append (by decide) hmodule, Option.map_some, hfooter,
    List.takeWhile_append_of_pos (by simpa using hline)]
  simp [YamlFlow.isBreak]

/-! ## The characters of a token -/

section Characters

variable {char : Char} {text : List Char}

theorem ne_of_isTokenChar {other : Char} (hchar : isTokenChar char = true)
    (hother : isTokenChar other = false) : char ≠ other := by
  rintro rfl
  simp [hother] at hchar

theorem htmlReplacement_of_isTokenChar (hchar : isTokenChar char = true)
    (hplus : char ≠ '+') : htmlReplacement char = [char] := by
  have hne (other : Char) (hother : isTokenChar other = false) :
      char ≠ other := ne_of_isTokenChar hchar hother
  simp only [htmlReplacement, hne '&' (by decide), hne '<' (by decide),
    hne '>' (by decide), hne '"' (by decide),
    hne YamlFlow.quoteMark (by decide), hplus,
    hne (Char.ofNat 0) (by decide), if_false]

theorem htmlEscaped_eq_self (htext : ∀ char ∈ text, isTokenChar char = true)
    (hplus : '+' ∉ text) : htmlEscaped text = text := by
  induction text with
  | nil => rfl
  | cons first rest ih =>
    obtain ⟨hfirst, hrest⟩ := not_or.mp (mt List.mem_cons.mpr hplus)
    rw [htmlEscaped, List.flatMap_cons, htmlReplacement_of_isTokenChar
      (htext first List.mem_cons_self) (Ne.symm hfirst)]
    exact congrArg (first :: ·) (ih
      (fun char hchar => htext char (List.mem_cons_of_mem _ hchar)) hrest)

theorem mem_htmlEscaped (htext : ∀ char ∈ text, isTokenChar char = true)
    (hchar : char ∈ htmlEscaped text) :
    isTokenChar char = true ∨ char ∈ "&#43;".toList := by
  obtain ⟨source, hsource, hmem⟩ := List.mem_flatMap.mp hchar
  by_cases hplus : source = '+'
  · subst hplus
    exact .inr hmem
  · rw [htmlReplacement_of_isTokenChar (htext source hsource) hplus,
      List.mem_singleton] at hmem
    exact .inl (hmem ▸ htext source hsource)

theorem forall_htmlEscaped (good : Char → Bool)
    (htext : ∀ char ∈ text, isTokenChar char = true)
    (htoken : ∀ char, isTokenChar char = true → good char = true)
    (hreference : "&#43;".toList.all good = true) :
    ∀ char ∈ htmlEscaped text, good char = true := by
  intro char hchar
  rcases mem_htmlEscaped htext hchar with hplain | hmem
  · exact htoken char hplain
  · exact List.all_eq_true.mp hreference char hmem

theorem isBlank_of_isTokenChar (hchar : isTokenChar char = true) :
    YamlFlow.isBlank char = false := by
  simp [YamlFlow.isBlank, ne_of_isTokenChar hchar (by decide :
    isTokenChar ' ' = false), ne_of_isTokenChar hchar (by decide :
    isTokenChar '\t' = false)]

theorem isBreak_of_isTokenChar (hchar : isTokenChar char = true) :
    YamlFlow.isBreak char = false := by
  simp [YamlFlow.isBreak, ne_of_isTokenChar hchar (by decide :
    isTokenChar '\n' = false), ne_of_isTokenChar hchar (by decide :
    isTokenChar '\r' = false)]

theorem isUnbroken_htmlEscaped
    (htext : ∀ char ∈ text, isTokenChar char = true) :
    YamlPlain.IsUnbroken (htmlEscaped text) := by
  have hgood := forall_htmlEscaped
    (fun char => !YamlFlow.isBlank char && char != ':') htext
    (fun char hchar => by simp [isBlank_of_isTokenChar hchar,
      ne_of_isTokenChar hchar (by decide : isTokenChar ':' = false)])
    (by decide)
  exact fun char hchar => by simpa using hgood char hchar

theorem head?_htmlEscaped (htext : ∀ char ∈ text, isTokenChar char = true) :
    (htmlEscaped text).head? ≠ some '#' := by
  cases text with
  | nil => simp [htmlEscaped]
  | cons first rest =>
    have hfirst := htext first List.mem_cons_self
    by_cases hplus : first = '+'
    · subst hplus
      have hreference : htmlReplacement '+' = '&' :: "#43;".toList := by
        decide
      simp [htmlEscaped, hreference]
    · rw [htmlEscaped, List.flatMap_cons,
        htmlReplacement_of_isTokenChar hfirst hplus]
      simpa using ne_of_isTokenChar hfirst (by decide)

theorem eq_hyphen_of_isIndicator (hchar : isTokenChar char = true)
    (hindicator : YamlPlain.isIndicator char = true) : char = '-' := by
  have hall : "-?:,[]\x7b\x7d#&*!|>'\"%@`".toList.all
      (fun other => !isTokenChar other || other == '-') = true := by decide
  have hother := List.all_eq_true.mp hall char
    (by simpa [YamlPlain.isIndicator] using hindicator)
  simpa [hchar] using hother

theorem startsPlain_of_isTokenChar
    (htext : ∀ char ∈ text, isTokenChar char = true) (hne : text ≠ [])
    (hhyphen : text ≠ ['-']) : YamlPlain.startsPlain text = true := by
  cases text with
  | nil => exact absurd rfl hne
  | cons first rest =>
    by_cases hindicator : YamlPlain.isIndicator first = true
    · obtain rfl := eq_hyphen_of_isIndicator (htext first List.mem_cons_self)
        hindicator
      cases rest with
      | nil => exact absurd rfl hhyphen
      | cons second others =>
        have hsecond := isBlank_of_isTokenChar (htext second (by simp))
        simp [YamlPlain.startsPlain, hsecond]
    · simp [YamlPlain.startsPlain, hindicator]

end Characters

/-! ## Reading the token back -/

theorem readBearerToken_blackBoxConfig_iff (hescapes : platform.EscapesHtml)
    {selfSignedCerts : Bool} {token : String} (htoken : IsBearerToken token) :
    readBearerToken (blackBoxConfig platform selfSignedCerts (some token)) =
        some token ↔ '+' ∉ token.toList ∧ token ≠ "-" := by
  have hescaped : (platform.htmlEscape token).toList =
      htmlEscaped token.toList := by
    rw [hescapes, String.toList_ofList]
  have hlines := forall_htmlEscaped (fun char => !YamlFlow.isBreak char)
    htoken (fun char hchar => by simp [isBreak_of_isTokenChar hchar])
    (by decide)
  rw [readBearerToken, bearerTokenLine_blackBoxConfig
      (by simpa [hescaped] using hlines), Option.bind_some, hescaped,
    YamlPlain.readPlainScalar_of_isUnbroken (isUnbroken_htmlEscaped htoken)
      (head?_htmlEscaped htoken)]
  constructor
  · intro hread
    split at hread
    next hplain =>
      have hsame : htmlEscaped token.toList = token.toList := by
        simpa [String.ext_iff] using hread
      constructor
      · intro hplus
        have hlonger := length_lt_htmlEscaped hplus
        rw [hsame] at hlonger
        exact absurd hlonger (lt_irrefl _)
      · rintro rfl
        rw [hsame] at hplain
        exact absurd hplain (by decide)
    next => cases hread
  · rintro ⟨hplus, hhyphen⟩
    rw [htmlEscaped_eq_self htoken hplus, if_pos, Option.map_some,
      String.ofList_toList]
    by_cases hempty : token.toList = []
    · exact .inl hempty
    · refine .inr (startsPlain_of_isTokenChar htoken hempty fun hsame => ?_)
      exact hhyphen (String.toList_inj.mp hsame)

theorem run_getDefaultBlackBoxConfig {env : Surroundings}
    {cr : Observability} {cluster : Cluster} {secretName : String}
    {secret : Resource SecretSpec}
    (hnamed : cr.hasBlackboxBearerTokenSecret = some secretName)
    (hsecret : cluster.find .secret ⟨cr.ns, secretName⟩ = some secret)
    (hreadable : env.fault cluster.tick
      (.get .secret ⟨cr.ns, secretName⟩) = none) :
    env.run (getDefaultBlackBoxConfig platform cr) cluster =
      (.ok (blackBoxConfig platform cr.selfSignedCerts
          (some (secret.spec.data.get "token")),
        platform.sha256Hex (blackBoxConfig platform cr.selfSignedCerts
          (some (secret.spec.data.get "token")))), cluster.advance) := by
  simp only [getDefaultBlackBoxConfig, getBlackboxBearerToken, hnamed,
    Program.bind_eq_bind, Program.bind_assoc]
  rw [Surroundings.run_get_bind_of_find hsecret hreadable]
  rfl

/-- The token in the configuration is the one in the secret exactly if it has
no plus sign and is not a hyphen. -/
theorem bearerToken_verbatim_iff {platform : Platform}
    (hescapes : platform.EscapesHtml) {env : Surroundings}
    {cr : Observability} {cluster : Cluster} {secretName : String}
    {secret : Resource SecretSpec}
    (hnamed : cr.hasBlackboxBearerTokenSecret = some secretName)
    (hsecret : cluster.find .secret ⟨cr.ns, secretName⟩ = some secret)
    (hreadable : env.fault cluster.tick
      (.get .secret ⟨cr.ns, secretName⟩) = none)
    (htoken : IsBearerToken (secret.spec.data.get "token")) :
    ∃ config hash after,
      env.run (getDefaultBlackBoxConfig platform cr) cluster =
        (.ok (config, hash), after) ∧
      (readBearerToken config = some (secret.spec.data.get "token") ↔
        '+' ∉ (secret.spec.data.get "token").toList ∧
          secret.spec.data.get "token" ≠ "-") :=
  ⟨_, _, _, run_getDefaultBlackBoxConfig hnamed hsecret hreadable,
    readBearerToken_blackBoxConfig_iff hescapes htoken⟩

def Platform.escaping : Platform :=
  { Platform.plain with
    htmlEscape := fun text => String.ofList (htmlEscaped text.toList) }

def probingCr : Observability :=
  { plainCr with
    spec :=
      { selfContained := some { blackboxBearerTokenSecret := "probe" } } }

def probeSecret (token : String) : Resource SecretSpec :=
  { spec := { data := [("token", token)] } }

def probeCluster (token : String) : Cluster :=
  Cluster.empty.put .secret ⟨"managed", "probe"⟩ (probeSecret token)

theorem bearerToken_verbatim_plain :
    ∃ config hash after,
      Surroundings.quiet.run (getDefaultBlackBoxConfig .escaping probingCr)
        (probeCluster "dXNlcg==") = (.ok (config, hash), after) ∧
      (readBearerToken config = some "dXNlcg==" ↔
        '+' ∉ "dXNlcg==".toList ∧ "dXNlcg==" ≠ "-") := by
  have htoken : IsBearerToken "dXNlcg==" := by
    have hchars : "dXNlcg==".toList.all isTokenChar = true := by decide
    exact fun char hchar => List.all_eq_true.mp hchars char hchar
  exact @bearerToken_verbatim_iff .escaping (fun _ => rfl) .quiet probingCr
    (probeCluster "dXNlcg==") "probe" (probeSecret "dXNlcg==") rfl rfl rfl
    htoken

/-- A token with a plus sign is read back with the reference in its place. -/
theorem plusToken_altered :
    IsBearerToken "a+b" ∧
      (∃ hash after,
        Surroundings.quiet.run (getDefaultBlackBoxConfig .escaping probingCr)
          (probeCluster "a+b") =
            (.ok (blackBoxConfig .escaping false (some "a+b"), hash), after)) ∧
      readBearerToken (blackBoxConfig .escaping false (some "a+b")) =
        some "a&#43;b" := by
  have htoken : IsBearerToken "a+b" := by
    have hchars : "a+b".toList.all isTokenChar = true := by decide
    exact fun char hchar => List.all_eq_true.mp hchars char hchar
  have hescaped : (Platform.escaping.htmlEscape "a+b").toList =
      "a&#43;b".toList := by decide
  refine ⟨htoken, ⟨_, _, rfl⟩, ?_⟩
  rw [readBearerToken, bearerTokenLine_blackBoxConfig, hescaped]
  · decide
  · rw [hescaped]
    have hline : "a&#43;b".toList.all (!YamlFlow.isBreak ·) = true := by
      decide
    intro char hchar
    simpa using List.all_eq_true.mp hline char hchar

end ObservabilityOperator
