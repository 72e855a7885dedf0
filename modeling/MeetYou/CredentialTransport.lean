import MeetYou.Foundation.Base64
import MeetYou.Foundation.JsonText
import MeetYou.Foundation.SpacedWords

/-!
# Credentials in tool arguments

Arguments with a sensitive field are sent twice: in the open with the values of the sensitive
fields replaced, and encrypted as a whole. Whether there is such a field and what is replaced
are two traversals over the same names: a name counts when it is one of a list, or ends in
one of the endings, white space around it and letter case aside. The value of a sensitive
field is replaced whatever it is, so what stands below it is not looked at.

The cipher is a package that is not part of the repository, and a parameter. So are the
derivation of a key from a secret and a purpose, and how the source language shows values
that are not texts.
-/

namespace CredentialTransport

open Text JsonText

/-- The members of an object. -/
abbrev Object (Real : Type) := List (List Char × Value Real)

/-! ## Sensitive fields -/

/-- `_SENSITIVE_FIELD_NAMES` -/
def sensitiveFieldNames : List (List Char) :=
  ["access_token", "api_key", "authorization", "cookie", "cookie_header", "email", "password",
    "refresh_token", "secret", "token", "webvpn_cookie"].map String.toList

/-- `_SENSITIVE_FIELD_SUFFIXES` -/
def sensitiveFieldSuffixes : List (List Char) :=
  ["_api_key", "_cookie", "_password", "_secret", "_token"].map String.toList

/-- `_is_sensitive_field_name`, for a name that is normalized already. -/
def isSensitiveFieldName (normalizedKey : List Char) : Bool :=
  normalizedKey ∈ sensitiveFieldNames ||
    sensitiveFieldSuffixes.any fun suffix => suffix.isSuffixOf normalizedKey

/-- `_is_sensitive_field_name(str(key or "").strip().lower())` -/
def sensitive (key : List Char) : Bool := isSensitiveFieldName (lowered (trim key))

/-- The text that stands in the public arguments instead of a sensitive value. -/
def redacted : List Char := "[REDACTED]".toList

section
variable {Real : Type}

mutual

/-- `contains_sensitive_fields`: a member below the value has a sensitive name. -/
def containsSensitiveFields : Value Real → Bool
  | .object members => membersContain members
  | .list items => itemsContain items
  | _ => false

/-- The members of one object, each with its name. -/
def membersContain : Object Real → Bool
  | [] => false
  | (key, value) :: rest => sensitive key || containsSensitiveFields value || membersContain rest

/-- The items of one list, which have no names. -/
def itemsContain : List (Value Real) → Bool
  | [] => false
  | value :: rest => containsSensitiveFields value || itemsContain rest

end

mutual

/-- `redact_sensitive_fields`: what stands below a sensitive name is replaced, whatever it is. -/
def redactSensitiveFields : Value Real → Value Real
  | .object members => .object (redactMembers members)
  | .list items => .list (redactItems items)
  | value => value

/-- An object keeps its names and their order. -/
def redactMembers : Object Real → Object Real
  | [] => []
  | (key, value) :: rest =>
      (key, if sensitive key then .text redacted else redactSensitiveFields value) ::
        redactMembers rest

/-- A list is redacted item by item. -/
def redactItems : List (Value Real) → List (Value Real)
  | [] => []
  | value :: rest => redactSensitiveFields value :: redactItems rest

end

/-- Arguments are an object whose names are distinct throughout. -/
structure Arguments (Real : Type) where
  members : Object Real
  proper : (Value.object members).Proper

/-- Redaction leaves the names of an object as they are. -/
theorem redactMembers_names (members : Object Real) :
    (redactMembers members).map Prod.fst = members.map Prod.fst := by
  induction members with
  | nil => rfl
  | cons member rest inductionHypothesis =>
    obtain ⟨key, value⟩ := member
    rw [redactMembers, List.map_cons, List.map_cons, inductionHypothesis]

mutual

/-- Redacting keeps the names. -/
theorem redact_proper : ∀ value : Value Real, value.Proper → (redactSensitiveFields value).Proper
  | .object members, ⟨distinct, proper⟩ =>
      ⟨by rw [redactMembers_names]; exact distinct, redactMembers_proper members proper⟩
  | .list items, proper => redactItems_proper items proper
  | .null, _ => trivial
  | .bool _, _ => trivial
  | .int _, _ => trivial
  | .real _, _ => trivial
  | .text _, _ => trivial

/-- Names that were distinct stay so, in the object and below it. -/
theorem redactMembers_proper :
    ∀ members : Object Real, ProperMembers members → ProperMembers (redactMembers members)
  | [], _ => trivial
  | (key, value) :: rest, ⟨first, others⟩ => by
      refine ⟨?_, redactMembers_proper rest others⟩
      split
      · trivial
      · exact redact_proper value first

/-- A redacted list is proper when its items were. -/
theorem redactItems_proper :
    ∀ items : List (Value Real), ProperItems items → ProperItems (redactItems items)
  | [], _ => trivial
  | value :: rest, ⟨first, others⟩ => ⟨redact_proper value first, redactItems_proper rest others⟩

end

mutual

/-- A value without sensitive fields stays as it is. -/
theorem redact_clear :
    ∀ value : Value Real, containsSensitiveFields value = false → redactSensitiveFields value = value
  | .object members, clear => congrArg Value.object (redactMembers_clear members clear)
  | .list items, clear => congrArg Value.list (redactItems_clear items clear)
  | .null, _ => rfl
  | .bool _, _ => rfl
  | .int _, _ => rfl
  | .real _, _ => rfl
  | .text _, _ => rfl

/-- An object without sensitive names is not changed. -/
theorem redactMembers_clear :
    ∀ members : Object Real, membersContain members = false → redactMembers members = members
  | [], _ => rfl
  | (key, value) :: rest, clear => by
      rw [membersContain, Bool.or_eq_false_iff, Bool.or_eq_false_iff] at clear
      obtain ⟨⟨visible, below⟩, others⟩ := clear
      rw [redactMembers, visible, redact_clear value below, redactMembers_clear rest others]
      rfl

/-- A list without sensitive names is not changed. -/
theorem redactItems_clear :
    ∀ items : List (Value Real), itemsContain items = false → redactItems items = items
  | [], _ => rfl
  | value :: rest, clear => by
      rw [itemsContain, Bool.or_eq_false_iff] at clear
      rw [redactItems, redact_clear value clear.1, redactItems_clear rest clear.2]

end

/-! ### Two runs -/

/-- Each member has its place in the redacted object, with its value or the replacement. -/
theorem mem_redactMembers {members : Object Real} {key : List Char} {value : Value Real}
    (member : (key, value) ∈ members) :
    (key, if sensitive key then .text redacted else redactSensitiveFields value) ∈
      redactMembers members := by
  induction members with
  | nil => cases member
  | cons first rest inductionHypothesis =>
    obtain ⟨firstKey, firstValue⟩ := first
    rw [redactMembers]
    rcases List.mem_cons.mp member with same | later
    · cases same
      exact List.mem_cons_self
    · exact List.mem_cons_of_mem _ (inductionHypothesis later)

mutual

/-- Values that agree outside of sensitive fields are redacted to the same value. -/
theorem redact_alike : ∀ value other : Value Real, Alike sensitive value other →
    Same (redactSensitiveFields value) (redactSensitiveFields other)
  | .object members, other, alike => by
      cases other with
      | object others =>
        refine ⟨fun name => ?_, redactMembers_alike members others
          (fun name => (alike.1 name).mp) alike.2⟩
        rw [redactMembers_names, redactMembers_names]
        exact alike.1 name
      | _ => exact alike.elim
  | .list items, other, alike => by
      cases other with
      | list others => exact redactItems_alike items others alike
      | _ => exact alike.elim
  | .null, _, alike => by subst alike; exact Alike.refl _ _
  | .bool _, _, alike => by subst alike; exact Alike.refl _ _
  | .int _, _, alike => by subst alike; exact Alike.refl _ _
  | .real _, _, alike => by subst alike; exact Alike.refl _ _
  | .text _, _, alike => by subst alike; exact Alike.refl _ _

/-- Objects that differ below sensitive names only are redacted to the same members. -/
theorem redactMembers_alike : ∀ members others : Object Real,
    (∀ name, name ∈ members.map Prod.fst → name ∈ others.map Prod.fst) →
      AlikeMembers sensitive members others →
        AlikeMembers (fun _ => false) (redactMembers members) (redactMembers others)
  | [], _, _, _ => trivial
  | (key, value) :: rest, others, names, ⟨first, alike⟩ => by
      refine ⟨Or.inr ?_, redactMembers_alike rest others
        (fun name member => names name (List.mem_cons_of_mem _ member)) alike⟩
      by_cases hidden : sensitive key = true
      · obtain ⟨⟨_, other⟩, member, rfl⟩ := List.mem_map.mp (names key List.mem_cons_self)
        have there := mem_redactMembers member
        rw [if_pos hidden] at there ⊢
        exact ⟨_, there, Alike.refl _ _⟩
      · obtain ⟨other, member, same⟩ := first.resolve_left hidden
        have there := mem_redactMembers member
        rw [if_neg hidden] at there ⊢
        exact ⟨_, there, redact_alike value other same⟩

/-- The same holds of lists, item by item. -/
theorem redactItems_alike : ∀ items others : List (Value Real),
    AlikeItems sensitive items others →
      AlikeItems (fun _ => false) (redactItems items) (redactItems others)
  | [], others, alike => by subst alike; rfl
  | value :: rest, others, alike => by
      cases others with
      | nil => exact alike.elim
      | cons other others =>
        exact ⟨redact_alike value other alike.1, redactItems_alike rest others alike.2⟩

end

/-- An object contains sensitive fields when one of its members is named so, or contains them. -/
theorem membersContain_iff (members : Object Real) :
    membersContain members = true ↔
      ∃ key value, (key, value) ∈ members ∧
        (sensitive key = true ∨ containsSensitiveFields value = true) := by
  induction members with
  | nil => simp [membersContain]
  | cons member rest inductionHypothesis =>
    obtain ⟨key, value⟩ := member
    rw [membersContain, Bool.or_eq_true, Bool.or_eq_true, inductionHypothesis]
    constructor
    · rintro (here | ⟨other, found, member, later⟩)
      · exact ⟨key, value, List.mem_cons_self, here⟩
      · exact ⟨other, found, List.mem_cons_of_mem _ member, later⟩
    · rintro ⟨other, found, member, holds⟩
      rcases List.mem_cons.mp member with same | later
      · cases same
        exact Or.inl holds
      · exact Or.inr ⟨other, found, later, holds⟩

/-- The values of an object with distinct names have distinct names, too. -/
theorem properMembers_of {members : Object Real} (proper : ProperMembers members)
    {key : List Char} {value : Value Real} (member : (key, value) ∈ members) : value.Proper := by
  induction members with
  | nil => cases member
  | cons first rest inductionHypothesis =>
    obtain ⟨firstKey, firstValue⟩ := first
    rcases List.mem_cons.mp member with same | later
    · cases same
      exact proper.1
    · exact inductionHypothesis proper.2 later

/-- Under distinct names a member is determined by its name. -/
theorem member_unique {members : Object Real} (distinct : (members.map Prod.fst).Nodup)
    {key : List Char} {value other : Value Real} (first : (key, value) ∈ members)
    (second : (key, other) ∈ members) : value = other :=
  (Prod.mk.inj (List.inj_on_of_nodup_map distinct first second rfl)).2

mutual

/-- Values that agree outside of sensitive fields both have such a field, or none. -/
theorem contains_alike : ∀ value other : Value Real, other.Proper →
    Alike sensitive value other →
      containsSensitiveFields value = containsSensitiveFields other
  | .object members, other, proper, alike => by
      cases other with
      | object others =>
        have each := members_alike members others proper.2 alike.2
        rw [containsSensitiveFields, containsSensitiveFields, Bool.eq_iff_iff,
          membersContain_iff, membersContain_iff]
        constructor
        · rintro ⟨name, value, member, holds⟩
          obtain ⟨⟨key, other⟩, found, rfl⟩ :=
            List.mem_map.mp ((alike.1 name).mp (List.mem_map.mpr ⟨_, member, rfl⟩))
          rcases each key value member with hidden | ⟨other, there, same⟩
          · exact ⟨key, other, found, Or.inl hidden⟩
          · exact ⟨key, other, there, holds.imp_right fun contains => same ▸ contains⟩
        · rintro ⟨name, other, member, holds⟩
          obtain ⟨⟨key, value⟩, found, rfl⟩ :=
            List.mem_map.mp ((alike.1 name).mpr (List.mem_map.mpr ⟨_, member, rfl⟩))
          rcases each key value found with hidden | ⟨twin, there, same⟩
          · exact ⟨key, value, found, Or.inl hidden⟩
          · obtain rfl := member_unique proper.1 there member
            exact ⟨key, value, found, holds.imp_right fun contains => same.trans contains⟩
      | _ => exact alike.elim
  | .list items, other, proper, alike => by
      cases other with
      | list others => exact items_alike items others proper alike
      | _ => exact alike.elim
  | .null, _, _, alike => by subst alike; rfl
  | .bool _, _, _, alike => by subst alike; rfl
  | .int _, _, _, alike => by subst alike; rfl
  | .real _, _, _, alike => by subst alike; rfl
  | .text _, _, _, alike => by subst alike; rfl

/-- Each member of one object has a sensitive name, or its like in the other one contains as
much. -/
theorem members_alike : ∀ members others : Object Real, ProperMembers others →
    AlikeMembers sensitive members others → ∀ key value, (key, value) ∈ members →
      sensitive key = true ∨ ∃ other, (key, other) ∈ others ∧
        containsSensitiveFields value = containsSensitiveFields other
  | [], _, _, _ => fun _ _ member => (List.not_mem_nil member).elim
  | (key, value) :: rest, others, proper, ⟨first, alike⟩ => by
      intro tested found member
      rcases List.mem_cons.mp member with same | later
      · cases same
        refine first.imp_right ?_
        rintro ⟨other, there, same⟩
        exact ⟨other, there, contains_alike value other (properMembers_of proper there) same⟩
      · exact members_alike rest others proper alike tested found later

/-- Lists that differ below sensitive names only contain as much. -/
theorem items_alike : ∀ items others : List (Value Real), ProperItems others →
    AlikeItems sensitive items others → itemsContain items = itemsContain others
  | [], others, _, alike => by subst alike; rfl
  | value :: rest, others, proper, alike => by
      cases others with
      | nil => exact alike.elim
      | cons other others =>
        rw [itemsContain, itemsContain, contains_alike value other proper.1 alike.1,
          items_alike rest others proper.2 alike.2]

end

end

/-! ## Encryption -/

/-- The error of the module, with its code and its text. -/
structure CredentialTransportError where
  code : String
  message : String
  deriving DecidableEq

/-- Bytes, as the cipher and the encoding exchange them. -/
abbrev Bytes := List UInt8

/-- AES in Galois counter mode: both directions take a key, a nonce and data that is
authenticated only. -/
structure Cipher where
  encryptAndDigest : Bytes → Bytes → Bytes → Bytes → Bytes × Bytes
  decryptAndVerify : Bytes → Bytes → Bytes → Bytes → Bytes → Option Bytes

/-- Under the same key, nonce and authenticated data a text is decrypted again. -/
def Cipher.Inverts (cipher : Cipher) : Prop :=
  ∀ key nonce header plaintext,
    cipher.decryptAndVerify key nonce header
      (cipher.encryptAndDigest key nonce header plaintext).1
      (cipher.encryptAndDigest key nonce header plaintext).2 = some plaintext

/-- What a process finds around itself: its environment, and whether the cipher is
installed. -/
structure Process where
  environment : String → List Char
  cipherInstalled : Bool

/-- `_CREDENTIAL_SECRET_ENV_NAMES`, in the order they are looked up. -/
def credentialSecretEnvNames : List String :=
  ["MEETYOU_CREDENTIAL_SECRET", "MEETYOU_GATEWAY_ACCESS_TOKEN", "MEETYOU_CLIENT_ACCESS_TOKEN"]

/-- `resolve_credential_secret`: a given secret, or the first variable of the environment that is
not blank. -/
def Process.resolveCredentialSecret (process : Process) (explicitSecret : List Char) :
    Except CredentialTransportError (List Char) :=
  if trim explicitSecret ≠ [] then .ok (trim explicitSecret)
  else match credentialSecretEnvNames.find? fun name => trim (process.environment name) ≠ [] with
    | some name => .ok (trim (process.environment name))
    | none => .error ⟨"credential_key_unavailable",
        "缺少凭证加密密钥，请在 .env 中设置 MEETYOU_CREDENTIAL_SECRET。"⟩

/-- `encode("utf-8")` -/
def encodeUtf8 (text : List Char) : Bytes := text.flatMap String.utf8EncodeChar

/-- `decode("utf-8")` -/
def decodeUtf8 (bytes : Bytes) : Option (List Char) :=
  bytes.toByteArray.utf8Decode?.map Array.toList

/-- What was encoded is decoded to the same text. -/
theorem decodeUtf8_encodeUtf8 (text : List Char) : decodeUtf8 (encodeUtf8 text) = some text := by
  unfold decodeUtf8 encodeUtf8
  have decodes := List.utf8Decode?_utf8Encode (l := text)
  unfold List.utf8Encode at decodes
  rw [decodes]
  rfl

section
variable (reals : Reals) (cipher : Cipher) (deriveKey : List Char → List Char → Bytes)
  (shown : Value reals.Carrier → List Char)

/-- The fields of an envelope. -/
def envelope (purpose : List Char) (iv ciphertext tag : Bytes) : Object reals.Carrier :=
  [("version".toList, .text "v1".toList), ("alg".toList, .text "aes-256-gcm".toList),
    ("purpose".toList, .text purpose), ("iv".toList, .text (Base64.encode iv)),
    ("ciphertext".toList, .text (Base64.encode ciphertext)),
    ("tag".toList, .text (Base64.encode tag))]

/-- `encrypt_json_payload`, with the random bytes it draws; a payload that JSON cannot write is an
error of the encryption. -/
def encryptJsonPayload (process : Process) (payload : Object reals.Carrier)
    (purpose explicitSecret : List Char) (iv : Bytes) :
    Except CredentialTransportError (Object reals.Carrier) :=
  match process.resolveCredentialSecret explicitSecret with
  | .error error => .error error
  | .ok secret =>
    if ¬ (Value.object payload).Printable then
      .error ⟨"credential_encrypt_failed", "凭证加密失败，请检查本地安全配置。"⟩
    else if process.cipherInstalled = false then
      .error ⟨"credential_crypto_unavailable",
        "凭证加密依赖不可用，请安装 requirements 中的加密依赖。"⟩
    else
      let plaintext := encodeUtf8 (write reals (.object payload))
      let encrypted := cipher.encryptAndDigest (deriveKey secret purpose) iv (encodeUtf8 purpose)
        plaintext
      .ok (envelope reals purpose iv encrypted.1 encrypted.2)

/-- `str(envelope.get(name) or "")`; `shown` is that of a value other than a text. -/
def textField (members : Object reals.Carrier) (name : String) : List Char :=
  match Dict.find name.toList members with
  | none => []
  | some (.text characters) => characters
  | some value => shown value

/-- The one error of everything that may be wrong with an envelope. -/
def decryptFailed : CredentialTransportError :=
  ⟨"credential_decrypt_failed", "凭证解密失败，请重新提交 Danxi/WebVPN 登录信息。"⟩

/-- `decrypt_json_payload`; `none` stands for what is no dictionary. -/
def decryptJsonPayload (process : Process) (envelope : Option (Object reals.Carrier))
    (purpose explicitSecret : List Char) :
    Except CredentialTransportError (Object reals.Carrier) :=
  match envelope with
  | none => .error ⟨"credential_decrypt_failed", "凭证解密失败：缺少有效的加密封装。"⟩
  | some envelope =>
    match process.resolveCredentialSecret explicitSecret with
    | .error error => .error error
    | .ok secret =>
      if textField reals shown envelope "version" ≠ "v1".toList ∨
          lowered (textField reals shown envelope "alg") ≠ "aes-256-gcm".toList ∨
          textField reals shown envelope "purpose" ≠ purpose then
        .error ⟨"credential_decrypt_failed", "凭证解密失败：加密封装版本或用途不匹配。"⟩
      else match Base64.decode (textField reals shown envelope "iv"),
          Base64.decode (textField reals shown envelope "ciphertext"),
          Base64.decode (textField reals shown envelope "tag") with
        | some iv, some ciphertext, some tag =>
          if process.cipherInstalled = false then
            .error ⟨"credential_crypto_unavailable",
              "凭证加密依赖不可用，请安装 requirements 中的加密依赖。"⟩
          else
            let plaintext := cipher.decryptAndVerify (deriveKey secret purpose) iv
              (encodeUtf8 purpose) ciphertext tag
            match (plaintext.bind decodeUtf8).bind (loads reals) with
            | none => .error decryptFailed
            | some (.object payload) => .ok payload
            | some _ => .error ⟨"credential_decrypt_failed", "凭证解密失败：载荷格式无效。"⟩
        | _, _, _ => .error decryptFailed

section
variable (purpose : List Char) (iv ciphertext tag : Bytes)

/-- The fields the decryption reads of an envelope are those the encryption wrote. -/
theorem envelope_version :
    textField reals shown (envelope reals purpose iv ciphertext tag) "version" = "v1".toList := rfl

/-- The name of the algorithm is compared in lower case. -/
theorem envelope_alg :
    lowered (textField reals shown (envelope reals purpose iv ciphertext tag) "alg") =
      "aes-256-gcm".toList := by
  have field : textField reals shown (envelope reals purpose iv ciphertext tag) "alg" =
      "aes-256-gcm".toList := rfl
  rw [field]
  decide +kernel

/-- The purpose stands in the envelope as it was given. -/
theorem envelope_purpose :
    textField reals shown (envelope reals purpose iv ciphertext tag) "purpose" = purpose := rfl

/-- The random bytes stand in the envelope as text. -/
theorem envelope_iv :
    textField reals shown (envelope reals purpose iv ciphertext tag) "iv" = Base64.encode iv := rfl

/-- So does what the cipher made of the payload. -/
theorem envelope_ciphertext :
    textField reals shown (envelope reals purpose iv ciphertext tag) "ciphertext" =
      Base64.encode ciphertext := rfl

/-- And so does its tag. -/
theorem envelope_tag :
    textField reals shown (envelope reals purpose iv ciphertext tag) "tag" = Base64.encode tag :=
  rfl

end

/-- What a process with the same secret decrypts is what was encrypted. -/
theorem decrypt_encrypt (inverts : cipher.Inverts) {sender receiver : Process}
    {explicitSecret purpose : List Char} {payload encrypted : Object reals.Carrier} {iv : Bytes}
    (proper : (Value.object payload).Proper)
    (shared : receiver.resolveCredentialSecret explicitSecret =
      sender.resolveCredentialSecret explicitSecret)
    (installed : receiver.cipherInstalled = true)
    (encrypts : encryptJsonPayload reals cipher deriveKey sender payload purpose explicitSecret iv =
      .ok encrypted) :
    decryptJsonPayload reals cipher deriveKey shown receiver (some encrypted) purpose
      explicitSecret = .ok payload := by
  unfold encryptJsonPayload at encrypts
  unfold decryptJsonPayload
  dsimp only
  rw [shared]
  cases secret : sender.resolveCredentialSecret explicitSecret with
  | error error =>
    rw [secret] at encrypts
    cases encrypts
  | ok secret' =>
    rw [secret] at encrypts
    dsimp only at encrypts ⊢
    split at encrypts
    · cases encrypts
    case isFalse printable =>
    split at encrypts
    · cases encrypts
    obtain rfl := Except.ok.inj encrypts
    rw [envelope_version, envelope_alg, envelope_purpose, envelope_iv, envelope_ciphertext,
      envelope_tag, Base64.decode_encode, Base64.decode_encode, Base64.decode_encode]
    dsimp only
    rw [if_neg (by simp), if_neg (by simp [installed]), inverts, Option.bind_some,
      decodeUtf8_encodeUtf8, Option.bind_some, loads_write reals proper (not_not.mp printable)]

/-! ## Protected arguments -/

/-- What a call with sensitive arguments is split into: arguments anyone may read, and an
envelope. -/
structure ProtectedArguments (Real : Type) where
  publicArguments : Object Real
  encryptedArguments : Option (Object Real)
  containsSensitiveFields : Bool

/-- `protect_sensitive_arguments`: only arguments with a sensitive field are encrypted, and then all
of them. -/
def protectSensitiveArguments (process : Process) (arguments : Object reals.Carrier)
    (purpose explicitSecret : List Char) (iv : Bytes) :
    Except CredentialTransportError (ProtectedArguments reals.Carrier) :=
  if membersContain arguments then
    (encryptJsonPayload reals cipher deriveKey process arguments purpose explicitSecret iv).map
      fun encrypted => ⟨redactMembers arguments, some encrypted, true⟩
  else .ok ⟨arguments, none, false⟩

/-- Either nothing is sensitive and all goes in the open, or all goes encrypted. -/
theorem protectSensitiveArguments_ok {process : Process} {arguments : Object reals.Carrier}
    {purpose explicitSecret : List Char} {iv : Bytes} {result : ProtectedArguments reals.Carrier}
    (protects : protectSensitiveArguments reals cipher deriveKey process arguments purpose
      explicitSecret iv = .ok result) :
    (membersContain arguments = false ∧ result = ⟨arguments, none, false⟩) ∨
      (membersContain arguments = true ∧ ∃ encrypted,
        encryptJsonPayload reals cipher deriveKey process arguments purpose explicitSecret iv =
          .ok encrypted ∧ result = ⟨redactMembers arguments, some encrypted, true⟩) := by
  unfold protectSensitiveArguments at protects
  split at protects
  case isTrue contains =>
    cases encrypts : encryptJsonPayload reals cipher deriveKey process arguments purpose
        explicitSecret iv with
    | error error =>
      rw [encrypts] at protects
      cases protects
    | ok encrypted =>
      rw [encrypts] at protects
      exact Or.inr ⟨contains, encrypted, rfl, (Except.ok.inj protects).symm⟩
  case isFalse clear =>
    exact Or.inl ⟨Bool.eq_false_iff.mpr clear, (Except.ok.inj protects).symm⟩

/-- The arguments in the open tell nothing about the values of sensitive fields. -/
theorem public_alike {process : Process} {left right : Arguments reals.Carrier}
    (alike : Alike sensitive (.object left.members) (.object right.members))
    {purpose explicitSecret : List Char} {leftIv rightIv : Bytes}
    {leftResult rightResult : ProtectedArguments reals.Carrier}
    (leftProtects : protectSensitiveArguments reals cipher deriveKey process left.members purpose
      explicitSecret leftIv = .ok leftResult)
    (rightProtects : protectSensitiveArguments reals cipher deriveKey process right.members purpose
      explicitSecret rightIv = .ok rightResult) :
    Same (.object leftResult.publicArguments) (.object rightResult.publicArguments) ∧
      leftResult.encryptedArguments.isSome = rightResult.encryptedArguments.isSome := by
  have contains : membersContain left.members = membersContain right.members :=
    contains_alike _ _ right.proper alike
  rcases protectSensitiveArguments_ok reals cipher deriveKey leftProtects with
    ⟨leftClear, rfl⟩ | ⟨leftContains, _, _, rfl⟩ <;>
  rcases protectSensitiveArguments_ok reals cipher deriveKey rightProtects with
    ⟨rightClear, rfl⟩ | ⟨rightContains, _, _, rfl⟩
  · have same := redact_alike _ _ alike
    rw [redact_clear (.object left.members) leftClear,
      redact_clear (.object right.members) rightClear] at same
    exact ⟨same, rfl⟩
  · rw [leftClear, rightContains] at contains
    cases contains
  · rw [leftContains, rightClear] at contains
    cases contains
  · exact ⟨redact_alike _ _ alike, rfl⟩

end

end CredentialTransport
