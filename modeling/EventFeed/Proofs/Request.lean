import Mathlib.Data.List.Forall2
import Mathlib.Tactic.SplitIfs
import EventFeed.Proofs.Base64
import EventFeed.Proofs.Settings
import EventFeed.Request

/-!
# The credentials in a request

The headers of a subscription are the same for everyone, but for the one that carries the
credentials. It is there exactly when there is a user name. Its name is found in any letters, small
and capital, and its value can be read back: the bytes of the user name, a colon, and the bytes of
the password.

A password may hold colons and a user name should not: the first colon ends it. So users without a
colon in their names who differ in name or password send different headers (`carries_credentials`).

None of this shows in the text of a request: whatever stands in a header for credentials, the text
is the same (`text_congr`).
-/

namespace EventFeed

/-! ### Letters, small and capital -/

namespace Text

/-- A capital letter is 32 below its small one. -/
lemma toNat_toLower (c : Char) :
    c.toLower.toNat = if 65 ≤ c.toNat ∧ c.toNat ≤ 90 then c.toNat + 32 else c.toNat := by
  have hcapital : (c.val ≥ 'A'.val ∧ c.val ≤ 'Z'.val) ↔ 65 ≤ c.toNat ∧ c.toNat ≤ 90 := by
    simp only [ge_iff_le, UInt32.le_iff_toNat_le]
    rfl
  unfold Char.toLower
  split
  · next h =>
    have hrange := hcapital.1 h
    have hval : c.val.toNat = c.toNat := rfl
    have hshift : ('a'.val - 'A'.val).toNat = 32 := by decide
    rw [if_pos hrange]
    change (c.val + ('a'.val - 'A'.val)).toNat = c.toNat + 32
    rw [UInt32.toNat_add, hshift, hval]
    omega
  · next h => rw [if_neg (mt hcapital.2 h)]

/-- A small letter is 32 above its capital one. -/
lemma toNat_toUpper (c : Char) :
    c.toUpper.toNat = if 97 ≤ c.toNat ∧ c.toNat ≤ 122 then c.toNat - 32 else c.toNat := by
  have hsmall : ('a'.val ≤ c.val ∧ c.val ≤ 'z'.val) ↔ 97 ≤ c.toNat ∧ c.toNat ≤ 122 := by
    simp only [UInt32.le_iff_toNat_le]
    rfl
  unfold Char.toUpper
  split
  · next h =>
    have hrange := hsmall.1 h
    have hval : c.val.toNat = c.toNat := rfl
    have hshift : ('A'.val - 'a'.val).toNat = 4294967264 := by decide
    rw [if_pos hrange]
    change (c.val + ('A'.val - 'a'.val)).toNat = c.toNat - 32
    rw [UInt32.toNat_add, hshift, hval]
    omega
  · next h => rw [if_neg (mt hsmall.2 h)]

/-- In small letters a character is `l` if it is `l` or the capital of `l`. -/
lemma toLower_eq_iff {c l : Char} (hl : l.toLower = l) :
    c.toLower = l ↔ c = l ∨ c = l.toUpper := by
  rw [← Char.toNat_inj, toNat_toLower] at hl
  rw [← Char.toNat_inj, ← Char.toNat_inj, ← Char.toNat_inj, toNat_toLower, toNat_toUpper]
  split_ifs at * <;> omega

/-- A text spells a word of small letters when its letters are those of the word, each of them small
or capital. -/
def Spells (text word : String) : Prop :=
  List.Forall₂ (fun c l => c = l ∨ c = l.toUpper) text.toList word.toList

end Text

open Text

namespace Request

variable {settings other : Settings} {name word : String}

/-- Names are compared by what they spell. -/
lemma foldName_eq_iff (hword : foldName word = word.toList) :
    foldName name = word.toList ↔ Spells name word := by
  unfold foldName at *
  unfold Spells
  generalize name.toList = cs
  generalize word.toList = ls at hword
  induction cs generalizing ls with
  | nil => cases ls <;> simp
  | cons c cs ih =>
    cases ls with
    | nil => simp
    | cons l ls =>
      obtain ⟨hl, hls⟩ := List.cons.inj hword
      rw [List.map_cons, List.cons.injEq, List.forall₂_cons, toLower_eq_iff hl, ih ls hls]

/-- The name of the header with the credentials is the word for it. -/
lemma foldName_authorization :
    foldName name = foldName authorizationName ↔ Spells name "authorization" := by
  rw [← foldName_eq_iff (by decide)]
  exact ⟨fun h => h.trans (by decide), fun h => h.trans (by decide)⟩

/-! ### What the header holds -/

/-- The bytes of a text. -/
def bytes (text : String) : List UInt8 :=
  text.toUTF8.data.toList

lemma bytes_append (s t : String) : bytes (s ++ t) = bytes s ++ bytes t := by
  simp [bytes, String.toByteArray_append]

/-- A text is known by its bytes. -/
lemma bytes_inj {s t : String} : bytes s = bytes t ↔ s = t := by
  rw [← String.toByteArray_inj, ByteArray.ext_iff, ← Array.toList_inj]
  rfl

/-- Texts before and behind a character are known when the ones before do not hold it. -/
lemma append_cons_inj {c : Char} {us vs ps qs : List Char} (hu : c ∉ us) (hv : c ∉ vs)
    (h : us ++ c :: ps = vs ++ c :: qs) : us = vs ∧ ps = qs := by
  have hfront : ∀ ws rest : List Char, c ∉ ws → (ws ++ c :: rest).takeWhile (· ≠ c) = ws := by
    intro ws rest hw
    rw [List.takeWhile_append_of_pos (by grind), List.takeWhile_cons_of_neg (by simp),
      List.append_nil]
  obtain rfl : us = vs := by rw [← hfront us ps hu, h, hfront vs qs hv]
  exact ⟨rfl, by simpa using h⟩

/-- The value of the header with the credentials tells them, if there is no colon in the name. -/
lemma basicValue_inj {u v p q : String} (hu : ':' ∉ u.toList) (hv : ':' ∉ v.toList)
    (h : basicValue u p = basicValue v q) : u = v ∧ p = q := by
  have hencoded : Base64.encode (bytes (u ++ ":" ++ p)) =
      Base64.encode (bytes (v ++ ":" ++ q)) :=
    String.ofList_inj.1 ((String.append_right_inj _).1 h)
  have hbytes : bytes (u ++ ":" ++ p) = bytes (v ++ ":" ++ q) := by
    have hdecoded := congrArg Base64.decode? hencoded
    rwa [Base64.decode?_encode, Base64.decode?_encode, Option.some.injEq] at hdecoded
  have htexts : u.toList ++ ':' :: p.toList = v.toList ++ ':' :: q.toList := by
    simpa using congrArg String.toList (bytes_inj.1 hbytes)
  obtain ⟨hname, hpassword⟩ := append_cons_inj hu hv htexts
  exact ⟨String.toList_inj.1 hname, String.toList_inj.1 hpassword⟩

/-! ### The headers -/

/-- No other header is for credentials. -/
lemma not_spells_protocol {header : String × String} (h : header ∈ protocolHeaders) :
    ¬ Spells header.1 "authorization" := by
  rw [← foldName_authorization]
  revert header
  decide

/-- A request has the headers of every subscription and those for the credentials. -/
lemma ofSettings_eq {url : Url} (h : settings.parsedUrl = .ok url) :
    ofSettings settings =
      .ok { url := url.text, headers := protocolHeaders ++ credentialHeaders settings } := by
  simp [ofSettings, h, Except.map]

/-- Without a user name there is no header for credentials. -/
lemma credentialHeaders_eq_nil (h : settings.username = "") : credentialHeaders settings = [] := by
  simp [credentialHeaders, h]

/-- With a user name there is one header for credentials. -/
lemma credentialHeaders_eq (h : settings.username ≠ "") :
    credentialHeaders settings =
      [(authorizationName, basicValue settings.username settings.password)] := by
  simp [credentialHeaders, h]

/-- A header for credentials is the one that the settings ask for. -/
lemma mem_credentialHeaders {header : String × String}
    (h : header ∈ protocolHeaders ++ credentialHeaders settings)
    (hspells : Spells header.1 "authorization") : header ∈ credentialHeaders settings := by
  rcases List.mem_append.1 h with hprotocol | hcredentials
  · exact absurd hspells (not_spells_protocol hprotocol)
  · exact hcredentials

/-- The header for credentials is found under any spelling of its name. -/
lemma header?_of_spells {url : String} (hspells : Spells name "authorization") :
    Request.header? { url, headers := protocolHeaders ++ credentialHeaders settings } name =
      (credentialHeaders settings).head?.map Prod.snd := by
  have hname := foldName_authorization.2 hspells
  have hnone : protocolHeaders.find? (fun header => foldName header.1 = foldName name) = none := by
    refine List.find?_eq_none.2 fun header hheader => ?_
    rw [hname, decide_eq_true_eq, foldName_authorization]
    exact not_spells_protocol hheader
  rw [header?, List.find?_append, hnone, Option.none_or]
  unfold credentialHeaders
  split
  · rfl
  · simp [hname]

/-- The request of settings with a URL has a header for credentials exactly when there is a user
name, and no more than one. It is found under any spelling of its name, and its value reads back as
the user name, a colon and the password. Settings with other credentials do not give it, if neither
user name holds a colon. -/
theorem carries_credentials {url : Url} (hurl : settings.parsedUrl = .ok url) :
    ∃ request, ofSettings settings = .ok request ∧
      (settings.username = "" →
        (∀ header ∈ request.headers, ¬ Spells header.1 "authorization") ∧
          ∀ name, Spells name "authorization" → request.header? name = none) ∧
      (settings.username ≠ "" →
        ∃ (before after : List (String × String)) (name : String) (token : List Char),
          request.headers = before ++ (name, "Basic " ++ String.ofList token) :: after ∧
            Spells name "authorization" ∧
            (∀ header ∈ before ++ after, ¬ Spells header.1 "authorization") ∧
            (∀ name, Spells name "authorization" →
              request.header? name = some ("Basic " ++ String.ofList token)) ∧
            Base64.Padded token ∧
            Base64.decode? token =
              some (bytes settings.username ++ 58 :: bytes settings.password)) ∧
      ∀ (other : Settings) (request' : Request), ofSettings other = .ok request' →
        ':' ∉ settings.username.toList → ':' ∉ other.username.toList →
        (settings.username, settings.password) ≠ (other.username, other.password) →
        ∀ header ∈ request.headers, Spells header.1 "authorization" →
          header ∉ request'.headers := by
  refine ⟨_, ofSettings_eq hurl, fun hnone => ?_, fun hsome => ?_, ?_⟩
  · refine ⟨fun header hheader hspells => ?_, fun name hspells => ?_⟩
    · simpa [credentialHeaders_eq_nil hnone] using mem_credentialHeaders hheader hspells
    · rw [header?_of_spells hspells, credentialHeaders_eq_nil hnone]
      rfl
  · refine ⟨protocolHeaders, [], authorizationName,
      Base64.encode (bytes (settings.username ++ ":" ++ settings.password)),
      congrArg (protocolHeaders ++ ·) (credentialHeaders_eq hsome),
      foldName_authorization.1 rfl, fun header hheader => ?_, fun name hspells => ?_,
      Base64.padded_encode _, ?_⟩
    · exact not_spells_protocol (by simpa using hheader)
    · rw [header?_of_spells hspells, credentialHeaders_eq hsome]
      rfl
    · rw [Base64.decode?_encode, bytes_append, bytes_append, List.append_assoc]
      rfl
  · intro other request' hother hu hv hne header hheader hspells hcommon
    obtain ⟨url', rfl⟩ := exists_of_map_eq_ok hother
    have hours := mem_credentialHeaders hheader hspells
    have htheirs := mem_credentialHeaders hcommon hspells
    unfold credentialHeaders at hours htheirs
    split at hours
    · exact absurd hours (by simp)
    split at htheirs
    · exact absurd htheirs (by simp)
    have hvalue := (List.mem_singleton.1 hours).symm.trans (List.mem_singleton.1 htheirs)
    obtain ⟨hname, hpassword⟩ := basicValue_inj hu hv (congrArg Prod.snd hvalue)
    exact hne (by rw [hname, hpassword])

/-- The name and the password of two users are the same letters, divided in two ways. -/
theorem carries_credentials_divided :
    let settings := { Settings.standard with username := "ad", password := "min:" }
    let other := { Settings.standard with username := "admin", password := ":" }
    ∃ (url : Url) (request request' : Request) (token : List Char),
      settings.parsedUrl = .ok url ∧ ofSettings settings = .ok request ∧
        ofSettings other = .ok request' ∧
        request.header? "aUTHORIZATION" = some ("Basic " ++ String.ofList token) ∧
        Base64.decode? token = some [97, 100, 58, 109, 105, 110, 58] ∧
        ∀ header ∈ request.headers, Spells header.1 "authorization" →
          header ∉ request'.headers := by
  intro settings other
  obtain ⟨url, hsome⟩ : ∃ url, settings.parsedUrl.toOption = some url :=
    Option.isSome_iff_exists.1 (by decide +kernel)
  obtain ⟨url', hsome'⟩ : ∃ url', other.parsedUrl.toOption = some url' :=
    Option.isSome_iff_exists.1 (by decide +kernel)
  have hurl := eq_ok_of_toOption hsome
  have hother := ofSettings_eq (eq_ok_of_toOption hsome')
  obtain ⟨request, hrequest, -, hcarries, hdiffer⟩ := carries_credentials hurl
  obtain ⟨before, after, name, token, -, -, -, hfound, -, hread⟩ := hcarries (by decide)
  refine ⟨url, request, _, token, hurl, hrequest, hother, hfound _ ?_, hread.trans ?_,
    hdiffer other _ hother (by decide) (by decide) (by decide)⟩
  · exact foldName_authorization.1 (by decide)
  · decide +kernel

/-! ### Requests as text -/

/-- Two headers that are shown alike: they have one name, and one value as well unless the name
spells the word for credentials. -/
def ShownAlike (header other : String × String) : Prop :=
  header.1 = other.1 ∧ (Spells header.1 "authorization" ∨ header.2 = other.2)

/-- A header of which only the name is shown is one for credentials. -/
lemma isSecret_iff : isSecret name = true ↔ Spells name "authorization" := by
  rw [← foldName_authorization, isSecret, decide_eq_true_iff]

/-- Headers that are shown alike are the same text. -/
lemma headerText_congr {header other : String × String} (h : ShownAlike header other) :
    headerText header = headerText other := by
  obtain ⟨hname, hspells | hvalue⟩ := h
  · have hsecret : isSecret header.1 = true := isSecret_iff.2 hspells
    unfold headerText
    rw [← hname, if_pos hsecret, if_pos hsecret]
  · rw [Prod.ext hname hvalue]

/-- So are whole lists of them. -/
lemma map_headerText_congr {headers others : List (String × String)}
    (h : List.Forall₂ ShownAlike headers others) :
    headers.map headerText = others.map headerText := by
  induction h with
  | nil => rfl
  | cons hheader _ ih => rw [List.map_cons, List.map_cons, headerText_congr hheader, ih]

/-- The text of a request does not depend on what stands in headers for credentials. -/
lemma text_congr {request other : Request} (hurl : request.url = other.url)
    (hheaders : List.Forall₂ ShownAlike request.headers other.headers) :
    request.text = other.text := by
  unfold text
  rw [hurl, map_headerText_congr hheaders]

/-- Another password changes nothing but headers. -/
lemma ofSettings_withPassword (settings : Settings) (password : String) :
    ofSettings { settings with password } = (ofSettings settings).map fun request =>
      { request with
        headers := protocolHeaders ++ credentialHeaders { settings with password } } := by
  have hurl : Settings.parsedUrl { settings with password } = settings.parsedUrl := rfl
  unfold ofSettings
  rw [hurl]
  cases settings.parsedUrl <;> rfl

/-- The headers of settings are shown alike whatever the password is. -/
lemma forall₂_shownAlike (settings : Settings) (password : String) :
    List.Forall₂ ShownAlike (protocolHeaders ++ credentialHeaders { settings with password })
      (protocolHeaders ++ credentialHeaders settings) := by
  refine List.rel_append (List.forall₂_same.2 fun header _ => ⟨rfl, .inr rfl⟩) ?_
  unfold credentialHeaders
  split
  · exact .nil
  · exact .cons ⟨rfl, .inl (foldName_authorization.1 rfl)⟩ .nil

/-- The text of the request of settings is the same whatever the password is. -/
lemma text_withPassword (settings : Settings) (password : String) :
    (ofSettings { settings with password }).map text = (ofSettings settings).map text := by
  rw [ofSettings_withPassword]
  cases h : ofSettings settings with
  | error e => rfl
  | ok request =>
    obtain ⟨url, rfl⟩ := exists_of_map_eq_ok h
    exact congrArg Except.ok (text_congr rfl (forall₂_shownAlike settings password))

end Request

end EventFeed
