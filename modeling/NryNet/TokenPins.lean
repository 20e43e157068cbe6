import NryNet.Auth
import NryNet.Lib.GoText

/-!
# Certificate pins in agent tokens (`internal/agenttoken/token.go`, `internal/auth/tokens.go`)

A pin is put behind a token as a third segment.  None of the segments has a dot in it: those of a token
come from a split at the dots, and a pin is base64.  So a pinned token is split into what it was made of, a
second pin takes the place of the first one, and who checks the token sees the same identifier and secret.
-/

namespace NryNet.AgentToken

open GoText

/-- `WithCertificatePin`. -/
def withCertificatePin (value pin : String) : Except String String :=
  match parse value with
  | .error message => .error message
  | .ok parts =>
      if !validCertificatePin pin then .error "invalid certificate pin"
      else .ok (parts.id ++ "." ++ parts.secret ++ "." ++ certificatePinMark ++ pin)

/-! ## The segments -/

variable {value pin : String} {parts : Parts}

/-- A pin has no dot in it. -/
theorem not_mem_of_validCertificatePin (valid : validCertificatePin pin = true) : '.' ∉ pin.toList := by
  have nowhere {chars : List Char} (member : '.' ∈ chars) : chars.mapM base64Digit = none := by
    induction chars with
    | nil => cases member
    | cons c rest ih =>
        rw [List.mapM_cons]
        rcases List.mem_cons.mp member with rfl | later
        · rfl
        · rw [ih later]
          cases base64Digit c <;> rfl
  intro dot
  have kept : '.' ∈ pin.toList.filter fun c => c ≠ '\n' ∧ c ≠ '\r' :=
    List.mem_filter.mpr ⟨dot, by decide⟩
  unfold validCertificatePin decodeRawURL at valid
  rw [nowhere kept] at valid
  cases valid

/-- The segments of a token that is accepted. -/
theorem parse_cases (accepted : parse value = .ok parts) :
    parts.id ≠ "" ∧ parts.secret ≠ "" ∧ '.' ∉ parts.id.toList ∧ '.' ∉ parts.secret.toList := by
  have dotless {segment : String} (listed : segment ∈ (value.toList.splitOn '.').map String.ofList) :
      '.' ∉ segment.toList := by
    obtain ⟨piece, inside, rfl⟩ := List.mem_map.mp listed
    rw [String.toList_ofList]
    exact not_mem_of_mem_splitOn inside
  unfold parse at accepted
  split at accepted
  · rename_i id secret segments
    rw [segments] at dotless
    split at accepted
    · cases accepted
    · rename_i filled
      rw [← Except.ok.inj accepted]
      exact ⟨fun none => filled (Or.inl none), fun none => filled (Or.inr none), dotless (by simp),
        dotless (by simp)⟩
  · rename_i id secret pin segments
    rw [segments] at dotless
    split at accepted
    · cases accepted
    rename_i filled
    split at accepted
    · simp only at accepted
      split at accepted
      · rw [← Except.ok.inj accepted]
        exact ⟨fun none => filled (Or.inl none), fun none => filled (Or.inr none), dotless (by simp),
          dotless (by simp)⟩
      · cases accepted
    · cases accepted
  · cases accepted

example : parse "token-1.office.secret" = .error "invalid agent token certificate pin" := by decide +kernel

/-- The segments of a pinned token. -/
theorem splitOn_pinned {id secret : String} (first : '.' ∉ id.toList) (second : '.' ∉ secret.toList)
    (valid : validCertificatePin pin = true) :
    ((id ++ "." ++ secret ++ "." ++ certificatePinMark ++ pin).toList.splitOn '.').map String.ofList =
      [id, secret, certificatePinMark ++ pin] := by
  have third : '.' ∉ (certificatePinMark ++ pin).toList := by
    rw [String.toList_append]
    intro dot
    rcases List.mem_append.mp dot with mark | later
    · exact absurd mark (by decide)
    · exact not_mem_of_validCertificatePin valid later
  have joined : (id ++ "." ++ secret ++ "." ++ certificatePinMark ++ pin).toList =
      id.toList ++ '.' :: (secret.toList ++ '.' :: (certificatePinMark ++ pin).toList) := by
    simp only [String.toList_append, List.append_assoc]
    rfl
  rw [joined, List.splitOn_append_cons_self_of_not_mem first,
    List.splitOn_append_cons_self_of_not_mem second, List.splitOn_eq_singleton third]
  simp only [List.map_cons, String.ofList_toList, List.map_nil]

/-- **A pinned token has the parts it was made of.** -/
theorem parse_pinned (accepted : parse value = .ok parts) (valid : validCertificatePin pin = true) :
    parse (parts.id ++ "." ++ parts.secret ++ "." ++ certificatePinMark ++ pin) =
      .ok ⟨parts.id, parts.secret, pin⟩ := by
  obtain ⟨named, secured, first, second⟩ := parse_cases accepted
  have marked : certificatePinMark.toList.isPrefixOf (certificatePinMark ++ pin).toList = true := by
    rw [List.isPrefixOf_iff_prefix, String.toList_append]
    exact List.prefix_append _ _
  have rest : String.ofList ((certificatePinMark ++ pin).toList.drop certificatePinMark.toList.length) =
      pin := by
    rw [String.toList_append, List.drop_left, String.ofList_toList]
  unfold parse
  simp only [splitOn_pinned first second valid, marked, rest, valid, if_true]
  exact if_neg fun empty => empty.elim named secured

end NryNet.AgentToken

namespace NryNet.Auth

open AgentToken

/-- `AuthenticateAgent`; `loading` is an error of the `SELECT`, and the error of the `UPDATE` is ignored. -/
def authenticateAgentIn (value : String) (now : Time) (loading : Option String) (updates : Bool) (s : Store) :
    Store × Except String Token :=
  match tokenParts value with
  | .error message => (s, .error message)
  | .ok (id, _) =>
      match loading with
      | some reason => (s, .error s!"load agent token: {reason}")
      | none =>
          match authenticateAgent s value now with
          | .error message => (s, .error message)
          | .ok token => (if updates then s.touchToken id now else s, .ok token)

/-- The pin of a token does not matter when it is checked. -/
theorem authenticateAgentIn_of_tokenParts {value other : String} (same : tokenParts other = tokenParts value) :
    authenticateAgentIn other = authenticateAgentIn value := by
  funext now loading updates s
  unfold authenticateAgentIn authenticateAgent
  rw [same]

theorem tokenParts_of_parse {value : String} {parts : Parts} (accepted : parse value = .ok parts) :
    tokenParts value = .ok (parts.id, parts.secret) := by
  unfold tokenParts
  rw [accepted]

/-- **A pin is put in, read, replaced and ignored.** -/
theorem withCertificatePin_replaces {value pin : String} {parts : Parts}
    (accepted : parse value = .ok parts) (valid : validCertificatePin pin = true) :
    ∃ pinned, withCertificatePin value pin = .ok pinned ∧
      parse pinned = .ok ⟨parts.id, parts.secret, pin⟩ ∧
      (∀ other, withCertificatePin pinned other = withCertificatePin value other) ∧
      authenticateAgentIn pinned = authenticateAgentIn value := by
  have pinned := parse_pinned accepted valid
  refine ⟨_, ?_, pinned, fun other => ?_, authenticateAgentIn_of_tokenParts ?_⟩
  · unfold withCertificatePin
    rw [accepted]
    simp only [valid, Bool.not_true, Bool.false_eq_true, if_false]
  · unfold withCertificatePin
    rw [pinned, accepted]
  · rw [tokenParts_of_parse pinned, tokenParts_of_parse accepted]

theorem parse_officeToken : parse officeToken = .ok ⟨"token-1", "office-secret", ""⟩ := by decide +kernel

theorem parse_officeToken_pinned :
    parse "token-1.office-secret.spki-sha256-AAAAAAAAAAAAAAAAAAAAAAAAAAAAAAAAAAAAAAAAAAA" =
      .ok ⟨"token-1", "office-secret", "AAAAAAAAAAAAAAAAAAAAAAAAAAAAAAAAAAAAAAAAAAA"⟩ := by
  have spelled : "token-1.office-secret.spki-sha256-AAAAAAAAAAAAAAAAAAAAAAAAAAAAAAAAAAAAAAAAAAA" =
      "token-1" ++ "." ++ "office-secret" ++ "." ++ certificatePinMark ++
        "AAAAAAAAAAAAAAAAAAAAAAAAAAAAAAAAAAAAAAAAAAA" := by
    decide +kernel
  have valid : validCertificatePin "AAAAAAAAAAAAAAAAAAAAAAAAAAAAAAAAAAAAAAAAAAA" = true := by decide +kernel
  have pinned := parse_pinned parse_officeToken valid
  simp only at pinned
  rw [spelled]
  exact pinned

/-- A token with a pin gets another one. -/
theorem withCertificatePin_replaces_pin :
    let value := "token-1.office-secret.spki-sha256-AAAAAAAAAAAAAAAAAAAAAAAAAAAAAAAAAAAAAAAAAAA"
    let pin := "_w-BBBBBBBBBBBBBBBBBBBBBBBBBBBBBBBBBBBBBBBB"
    ∃ pinned, withCertificatePin value pin = .ok pinned ∧
      parse pinned = .ok ⟨"token-1", "office-secret", pin⟩ ∧
      (∀ other, withCertificatePin pinned other = withCertificatePin value other) ∧
      authenticateAgentIn pinned = authenticateAgentIn officeToken := by
  intro value pin
  have valid : validCertificatePin pin = true := by decide +kernel
  obtain ⟨pinned, made, parsed, replaced, same⟩ :=
    withCertificatePin_replaces parse_officeToken_pinned valid
  have plain := tokenParts_of_parse parse_officeToken
  have unpinned := tokenParts_of_parse parse_officeToken_pinned
  refine ⟨pinned, made, parsed, replaced, same.trans ?_⟩
  exact (authenticateAgentIn_of_tokenParts (plain.trans unpinned.symm)).symm

end NryNet.Auth
