import MeetYou.Foundation.ShellWords
import MeetYou.Foundation.SpacedWords
import MeetYou.Foundation.TextPatterns

/-!
# The policy on Core shell commands

`exec_core_cmd` strips a command, lets `assess_command_safety` judge it, and hands the
stripped text to a shell. The judgement collapses white space and compares the start of the
command with the entries of a white list, letter case aside. Before that the hard guard looks
for control and redirection operators of the shell, and for options with which a transfer
tool writes files.

The guard is one regular expression. It finds semicolons, bars and angle brackets anywhere,
and an ampersand that is doubled or stands between white space. Line breaks, other
ampersands, parentheses, back quotes and dollar signs pass, and white space that a shell does
not take for a blank is matched as if it were one.

Entries of the white list are made of plain words here. The rules of the black list, which
no white list reads, are given as what they find. Which characters a word boundary asks for is
a parameter as well.
-/

namespace CommandPolicy

open Text ShellWords

/-! ## The patterns of the hard guard -/

/-- `(^|\s)&(\s|$)|&&|\|\||[;|<>]` -/
def shellControlPattern : Pattern :=
  .either
    (.both (.either .start .space)
      (.both (.literal ['&']) (.either .space .stop)))
    (.either (.literal ['&', '&'])
      (.either (.literal ['|', '|']) (.character fun found => found ∈ [';', '|', '<', '>'])))

/-- `^\s*(curl(?:\.exe)?|wget(?:\.exe)?)(?:\s|$)` -/
def transferToolPattern : Pattern :=
  .both .start (.both (.many isSpace)
    (.both
      (.either
        (.both (.letters "curl".toList) (.optional (.letters ".exe".toList)))
        (.both (.letters "wget".toList) (.optional (.letters ".exe".toList))))
      (.either .space .stop)))

/-- An option behind a white space, in front of a white space, an equals sign or the end. -/
def option (names : List String) : Pattern :=
  .both .space
    (.both (.oneOf (names.map fun name => .letters name.toList))
      (.either .space (.either (.literal ['=']) .stop)))

/-- The expressions for restricted transfer options, each with its text. -/
def transferWritePatterns : List (String × Pattern) :=
  [("\\s(?:-o|--output|--output-dir|-O|--remote-name|--remote-header-name|-J|--config|-K)" ++
      "(?:\\s|=|$)",
    option ["-o", "--output", "--output-dir", "-O", "--remote-name", "--remote-header-name", "-J",
      "--config", "-K"]),
    ("\\s(?:-T|--upload-file|--form|-F)(?:\\s|=|$)",
      option ["-T", "--upload-file", "--form", "-F"]),
    ("\\s(?:--data(?:-ascii|-binary|-raw|-urlencode)?|-d)(?:\\s|=)*@",
      .both .space
        (.both
          (.either
            (.both (.letters "--data".toList)
              (.optional (.oneOf (["-ascii", "-binary", "-raw", "-urlencode"].map fun name =>
                .letters name.toList))))
            (.letters "-d".toList))
          (.both (.many fun found => isSpace found || found == '=') (.literal ['@'])))),
    ("\\s(?:--output-document|--directory-prefix|-P)(?:\\s|=|$)",
      option ["--output-document", "--directory-prefix", "-P"]),
    ("\\b(?:file|ftp|sftp|scp|smb|gopher|dict|ldap)://",
      .both .boundary
        (.both
          (.oneOf (["file", "ftp", "sftp", "scp", "smb", "gopher", "dict", "ldap"].map fun name =>
            .letters name.toList))
          (.literal "://".toList)))]

/-! ## The white list -/

/-- `re.sub(r"\s+", " ", str(command or "").strip())` -/
def normalizeCommand (command : List Char) : List Char := collapseFrom false (trim command)

/-- The character has no meaning to the shell and is not white space. -/
def plainCharacter (character : Char) : Bool :=
  character.isAlphanum || character ∈ ['-', '_', '.', '/', '+', ':', '@', ',']

/-- An entry of a white list, made of plain words. -/
abbrev Entry :=
  { text : List Char //
    ∀ character ∈ text, plainCharacter character = true ∨ isSpace character = true }

/-- The words of an entry. -/
def Entry.words (entry : Entry) : List (List Char) := wordsOf (trim entry.1)

/-- The normalised command is an entry or goes on behind one. -/
def whitelistMatches (command : List Char) (whitelist : List Entry)
    (requireTokenBoundary : Bool) : Bool :=
  let lowerCommand := lowered (normalizeCommand command)
  whitelist.any fun item =>
    let allowed := lowered (normalizeCommand item.1)
    !allowed.isEmpty &&
      (lowerCommand = allowed ||
        (requireTokenBoundary && (allowed ++ [' ']).isPrefixOf lowerCommand) ||
        (!requireTokenBoundary && allowed.isPrefixOf lowerCommand))

/-! ## The assessment -/

/-- What an assessment says. -/
inductive Status
  | safe
  | blocked
  deriving DecidableEq

/-- A policy with anything in it. The mode is empty where it is missing. -/
structure Policy where
  mode : String
  whitelist : List Entry

/-- `str(resolved_policy.get("mode") or "blacklist").strip().lower()` -/
def Policy.readMode (policy : Policy) : String :=
  if policy.mode = "" then "blacklist" else lowerWord (strip policy.mode)

section
variable (isWord : Char → Bool) (dangerous : List Char → List Char → Option String)

/-- A pattern is found in the command or in the normalised command. -/
def matchesPattern (pattern : Pattern) (command normalized : List Char) : Bool :=
  pattern.search isWord command || pattern.search isWord normalized

/-- `_hard_guard`: operators of the shell first, then the options of a transfer tool. -/
def hardGuard (command normalized : List Char) : Option (Status × String) :=
  if matchesPattern isWord shellControlPattern command normalized then
    some (.blocked, "Matched shell control or redirection operator.")
  else if transferToolPattern.matchesStart isWord normalized then
    (transferWritePatterns.find? fun pattern =>
      matchesPattern isWord pattern.2 command normalized).map fun pattern =>
        (.blocked, "Matched restricted transfer option: " ++ pattern.1)
  else none

/-- `dangerous` gives the first rule of the black list that the command matches. -/
def assessCommandSafety (command : List Char) (policy : Option Policy)
    (blacklistMatchStatus : Status) (enforceHardGuards whitelistRequiresBoundary : Bool) :
    Status × String :=
  let normalized := normalizeCommand command
  if normalized = [] then (.blocked, "Command is required.")
  else match if enforceHardGuards then hardGuard isWord command normalized else none with
    | some result => result
    | none =>
      match policy with
      | none => (.safe, "")
      | some policy =>
        if policy.mode = "none" then (.safe, "")
        else if policy.readMode = "whitelist" then
          if whitelistMatches normalized policy.whitelist whitelistRequiresBoundary then
            (.safe, "")
          else (.blocked, "Command is not in whitelist: " ++ String.ofList normalized)
        else match dangerous command normalized with
          | some pattern => (blacklistMatchStatus, "Matched dangerous rule: " ++ pattern)
          | none => (.safe, "")

/-- `assess_core_command_safety` -/
def assessCoreCommandSafety (shellExecEnabled : Bool) (policy : Option Policy)
    (command : List Char) : Status × String :=
  if shellExecEnabled then assessCommandSafety isWord dangerous command policy .blocked true true
  else (.blocked, "Core shell execution is disabled by configuration.")

/-- Why a command is not run: the code, the message, and the policy's status and reason. -/
structure CommandError where
  code : String
  message : String
  policy : Option (Status × String)
  deriving DecidableEq

/-- The text that `exec_core_cmd` hands to the shell. -/
def execCoreCmd (shellExecEnabled : Bool) (policy : Option Policy) (cmd : List Char) :
    Except CommandError (List Char) :=
  let command := trim cmd
  if command = [] then .error ⟨"core_command_required", "cmd is required", none⟩
  else
    let assessment := assessCoreCommandSafety isWord dangerous shellExecEnabled policy command
    if assessment.1 = .safe then .ok command
    else .error ⟨"core_command_blocked", "Core command was blocked by policy.", some assessment⟩

end

/-! ## What a safe command is -/

section
variable {isWord : Char → Bool} {dangerous : List Char → List Char → Option String}

/-- What the guard lets through holds no semicolon, bar or angle bracket. -/
theorem hardGuard_none {command normalized : List Char}
    (passed : hardGuard isWord command normalized = none) {character : Char}
    (member : character ∈ command) : character ∉ [';', '|', '<', '>'] := by
  intro control
  have found : shellControlPattern.search isWord command = true := by
    unfold shellControlPattern Pattern.search
    rw [Pattern.searchFrom_either, Pattern.searchFrom_either, Pattern.searchFrom_either,
      Pattern.searchFrom_character]
    have some : command.any (fun found => decide (found ∈ [';', '|', '<', '>'])) = true :=
      List.any_eq_true.mpr ⟨character, member, by simpa using control⟩
    rw [some, Bool.or_true, Bool.or_true, Bool.or_true]
  unfold hardGuard matchesPattern at passed
  rw [found, Bool.true_or, if_pos rfl] at passed
  cases passed

theorem normalizeCommand_trimmed {command : List Char} (trimmed : Trimmed command) :
    normalizeCommand command = collapseFrom false command := by
  unfold normalizeCommand
  rw [trim_of_trimmed trimmed]

/-- The words of an entry that is not blank lead the words of the command. -/
def leadsWords (entry : Entry) (command : List Char) : Prop :=
  entry.words ≠ [] ∧ entry.words.map lowered <+: (wordsOf command).map lowered

instance (entry : Entry) (command : List Char) : Decidable (leadsWords entry command) :=
  inferInstanceAs (Decidable (_ ∧ _))

/-- The white list is compared word by word. -/
theorem whitelistMatches_iff {command : List Char} (trimmed : Trimmed command)
    (some : command ≠ []) (whitelist : List Entry) :
    whitelistMatches command whitelist true = true ↔
      ∃ entry ∈ whitelist, leadsWords entry command := by
  unfold whitelistMatches leadsWords
  simp only [List.any_eq_true, Bool.and_eq_true, Bool.not_eq_true', Bool.or_eq_true,
    decide_eq_true_eq, Bool.true_and, Bool.not_true, Bool.false_and, Bool.false_eq_true, or_false,
    List.isPrefixOf_iff_prefix, normalizeCommand_trimmed trimmed]
  refine exists_congr fun entry => and_congr_right fun _ => ?_
  have entryTrimmed := trim_trimmed entry.1
  unfold Entry.words normalizeCommand
  by_cases empty : trim entry.1 = []
  · simp [empty, wordsOf_nil, collapseFrom, lowered]
  · have words : wordsOf (trim entry.1) ≠ [] := by
      rw [wordsOf_trimmed entryTrimmed empty]
      exact List.cons_ne_nil _ _
    have allowed : lowered (collapseFrom false (trim entry.1)) ≠ [] :=
      lowered_ne_nil (collapse_ne_nil entryTrimmed empty)
    rw [lowered_match entryTrimmed trimmed empty some, List.isEmpty_eq_false_iff]
    exact and_congr_left fun _ => iff_of_true allowed words

theorem hardGuard_blocked {command normalized : List Char} {result : Status × String}
    (refused : hardGuard isWord command normalized = some result) : result.1 = .blocked := by
  unfold hardGuard at refused
  split at refused
  · cases refused
    rfl
  split at refused
  · obtain ⟨pattern, _, rfl⟩ := Option.map_eq_some_iff.mp refused
    rfl
  · cases refused

/-- Normalising a command again changes nothing. -/
theorem whitelistMatches_normalized {command : List Char} (trimmed : Trimmed command)
    (whitelist : List Entry) (requireTokenBoundary : Bool) :
    whitelistMatches (collapseFrom false command) whitelist requireTokenBoundary =
      whitelistMatches command whitelist requireTokenBoundary := by
  unfold whitelistMatches
  rw [normalizeCommand_trimmed (collapse_trimmed trimmed), normalizeCommand_trimmed trimmed,
    collapseFrom_twice]

/-- A command that runs under a white list has passed the guard and matches the list. -/
theorem execCoreCmd_ok {enabled : Bool} {policy : Policy} {cmd command : List Char}
    (whitelisting : policy.readMode = "whitelist")
    (runs : execCoreCmd isWord dangerous enabled (some policy) cmd = .ok command) :
    Trimmed command ∧ command ≠ [] ∧
      (∀ character ∈ command, character ∉ [';', '|', '<', '>']) ∧
      whitelistMatches command policy.whitelist true = true := by
  have bounded : ¬ policy.mode = "none" := by
    intro same
    unfold Policy.readMode at whitelisting
    rw [same] at whitelisting
    exact absurd whitelisting (by decide +kernel)
  unfold execCoreCmd assessCoreCommandSafety at runs
  dsimp only at runs
  cases enabled with
  | false => split at runs <;> cases runs
  | true =>
    rw [if_pos rfl] at runs
    by_cases empty : trim cmd = []
    · rw [if_pos empty] at runs
      cases runs
    by_cases safe : (assessCommandSafety isWord dangerous (trim cmd) (some policy) .blocked true
        true).1 = .safe
    case neg =>
      rw [if_neg empty, if_neg safe] at runs
      cases runs
    rw [if_neg empty, if_pos safe] at runs
    obtain rfl := Except.ok.inj runs
    have trimmed := trim_trimmed cmd
    have normal := normalizeCommand_trimmed trimmed
    unfold assessCommandSafety at safe
    dsimp only at safe
    rw [if_pos rfl, normal, if_neg (collapse_ne_nil trimmed empty)] at safe
    cases guarded : hardGuard isWord (trim cmd) (collapseFrom false (trim cmd)) with
    | some result =>
      rw [guarded] at safe
      exact absurd ((hardGuard_blocked guarded).symm.trans safe) (by decide)
    | none =>
      rw [guarded] at safe
      dsimp only at safe
      rw [if_neg bounded, if_pos whitelisting] at safe
      refine ⟨trimmed, empty, fun _ => hardGuard_none guarded, ?_⟩
      split at safe
      case isTrue listed => rwa [whitelistMatches_normalized trimmed] at listed
      case isFalse => cases safe

end

end CommandPolicy
