import ErrorOrigin.Prompt
import ErrorOrigin.Proofs.TextCuts
import Mathlib.Tactic

/-!
# The code that a prompt shows

The authored code goes before the window of the source text, and the description of the error comes
last.  Code that is missing and code that is blank are passed over alike: a line that the source
does not have and a window of empty lines lead to the same description.  A message and a file bring
marks of their own into it, so it is blank only when there is nothing but a blank name.
-/

namespace ErrorOrigin.Prompt

open Text

def IsBlank (text : String) : Prop :=
  trim text.toList = []

/-- The code is the authored one, whether or not there is anything to see. -/
def IsAuthored (snippets : PromptSnippets) (code : String) : Prop :=
  ∃ s, snippets.authored = some s ∧ s.text = code

/-- The code is that of the window around the line, which may be blank as well. -/
def IsWindow (snippets : PromptSnippets) (code : String) : Prop :=
  ∃ source s, snippets.sourceText = some source ∧
    Snippet.cut? source snippets.line snippets.contextLines = some s ∧ s.text = code

/-- The name, then the message and the place as far as they are known. -/
def description (error : ErrorRecord) (file : String) (line : Nat) : String :=
  let message := if error.message = "" then "" else ": " ++ error.message
  let place := if file = "" then "" else " (at " ++ file ++ ":" ++ toString line ++ ")"
  error.name ++ message ++ place

/-- What is to be shown, by the reasons for it. -/
inductive Shows (snippets : PromptSnippets) (error : ErrorRecord) (file : String) (line : Nat) :
    String → Prop where
  | authored {code : String} (hcode : IsAuthored snippets code) (hshown : ¬IsBlank code) :
      Shows snippets error file line code
  | window {code : String} (hauthored : ∀ other, IsAuthored snippets other → IsBlank other)
      (hcode : IsWindow snippets code) (hshown : ¬IsBlank code) :
      Shows snippets error file line code
  | described (hauthored : ∀ other, IsAuthored snippets other → IsBlank other)
      (hwindow : ∀ other, IsWindow snippets other → IsBlank other) :
      Shows snippets error file line (description error file line)

variable {snippets : PromptSnippets} {error : ErrorRecord} {file : String} {line : Nat}
  {code text : String}

theorem isBlank_iff : IsBlank text ↔ ∀ c ∈ text.toList, isBlank c = true :=
  trim_eq_nil_iff

theorem isBlank_append_iff {other : String} :
    IsBlank (text ++ other) ↔ IsBlank text ∧ IsBlank other := by
  rw [isBlank_iff, isBlank_iff, isBlank_iff, String.toList_append, List.forall_mem_append]

theorem not_isBlank_of_mem {c : Char} (hc : c ∈ text.toList) (hshown : isBlank c = false) :
    ¬IsBlank text := by
  intro hblank
  rw [isBlank_iff.mp hblank c hc] at hshown
  cases hshown

theorem shows_eq_false_iff {s : Snippet} : s.shows = false ↔ IsBlank s.text := by
  rw [isBlank_iff, Snippet.shows, Text.shows, List.any_eq_false]
  simp only [Bool.not_eq_true', Bool.not_eq_false]

theorem shows_eq_true_iff {s : Snippet} : s.shows = true ↔ ¬IsBlank s.text := by
  rw [← shows_eq_false_iff, Bool.not_eq_false]

/-! ## The choice -/

theorem describe_eq_description : describe error file line = description error file line := by
  unfold describe description Stack.Header.write
  by_cases hmessage : error.message = ""
  · simp only [hmessage, if_true, String.append_empty]
  · simp only [hmessage, if_false, String.append_assoc]

theorem bestSnippet?_of_authored (hcode : IsAuthored snippets code) (hshown : ¬IsBlank code) :
    bestSnippet? snippets = some code := by
  obtain ⟨s, hauthored, rfl⟩ := hcode
  rw [bestSnippet?, hauthored, Option.filter_some, if_pos (shows_eq_true_iff.mpr hshown)]

/-- Authored code that is blank is as good as none. -/
theorem bestSnippet?_of_blank (hauthored : ∀ other, IsAuthored snippets other → IsBlank other) :
    bestSnippet? snippets = (snippets.sourceText.bind fun source =>
      (Snippet.cut? source snippets.line snippets.contextLines).bind fun s =>
        if s.shows then some s.text else none) := by
  have hnone : snippets.authored.filter Snippet.shows = none := by
    rw [Option.filter_eq_none_iff]
    intro s hs
    rw [Bool.not_eq_true, shows_eq_false_iff]
    exact hauthored s.text ⟨s, hs, rfl⟩
  rw [bestSnippet?, hnone]
  rfl

theorem bestSnippet?_of_window (hauthored : ∀ other, IsAuthored snippets other → IsBlank other)
    (hcode : IsWindow snippets code) (hshown : ¬IsBlank code) :
    bestSnippet? snippets = some code := by
  obtain ⟨source, s, hsource, hcut, rfl⟩ := hcode
  rw [bestSnippet?_of_blank hauthored, hsource, Option.bind_some, hcut, Option.bind_some,
    if_pos (shows_eq_true_iff.mpr hshown)]

theorem bestSnippet?_eq_none (hauthored : ∀ other, IsAuthored snippets other → IsBlank other)
    (hwindow : ∀ other, IsWindow snippets other → IsBlank other) :
    bestSnippet? snippets = none := by
  rw [bestSnippet?_of_blank hauthored, Option.bind_eq_none_iff]
  intro source hsource
  rw [Option.bind_eq_none_iff]
  intro s hcut
  have hblank := hwindow s.text ⟨source, s, hsource, hcut, rfl⟩
  rw [shows_eq_false_iff.mpr hblank, if_neg Bool.false_ne_true]

theorem Shows.eq_choice (hshows : Shows snippets error file line text) :
    text = (bestSnippet? snippets).getD (describe error file line) := by
  cases hshows with
  | authored hcode hshown =>
      rw [bestSnippet?_of_authored hcode hshown, Option.getD_some]
  | window hauthored hcode hshown =>
      rw [bestSnippet?_of_window hauthored hcode hshown, Option.getD_some]
  | described hauthored hwindow =>
      rw [bestSnippet?_eq_none hauthored hwindow, Option.getD_none, describe_eq_description]

theorem exists_shows (snippets : PromptSnippets) (error : ErrorRecord) (file : String)
    (line : Nat) : ∃ text, Shows snippets error file line text := by
  by_cases hauthored : ∀ other, IsAuthored snippets other → IsBlank other
  · by_cases hwindow : ∀ other, IsWindow snippets other → IsBlank other
    · exact ⟨_, .described hauthored hwindow⟩
    · push Not at hwindow
      obtain ⟨code, hcode, hshown⟩ := hwindow
      exact ⟨code, .window hauthored hcode hshown⟩
  · push Not at hauthored
    obtain ⟨code, hcode, hshown⟩ := hauthored
    exact ⟨code, .authored hcode hshown⟩

/-- The reasons exclude each other, and there is always one. -/
theorem shows_iff :
    Shows snippets error file line text ↔
      text = (bestSnippet? snippets).getD (describe error file line) := by
  refine ⟨Shows.eq_choice, ?_⟩
  rintro rfl
  obtain ⟨text, htext⟩ := exists_shows snippets error file line
  rw [← htext.eq_choice]
  exact htext

/-! ## When nothing is to be seen -/

theorem isBlank_description_iff :
    IsBlank (description error file line) ↔
      IsBlank error.name ∧ error.message = "" ∧ file = "" := by
  have hmessage : IsBlank (if error.message = "" then "" else ": " ++ error.message) ↔
      error.message = "" := by
    split
    · rename_i hempty
      exact iff_of_true rfl hempty
    · rename_i hmessage
      have hcolon : ':' ∈ (": " ++ error.message).toList := by simp
      exact iff_of_false (not_isBlank_of_mem hcolon rfl) hmessage
  have hplace : IsBlank
      (if file = "" then "" else " (at " ++ file ++ ":" ++ toString line ++ ")") ↔ file = "" := by
    split
    · rename_i hempty
      exact iff_of_true rfl hempty
    · rename_i hfile
      have hclose : ')' ∈ (" (at " ++ file ++ ":" ++ toString line ++ ")").toList := by simp
      exact iff_of_false (not_isBlank_of_mem hclose rfl) hfile
  unfold description
  rw [isBlank_append_iff, isBlank_append_iff, hmessage, hplace, and_assoc]

theorem Shows.isBlank_iff (hshows : Shows snippets error file line text) :
    IsBlank text ↔
      (∀ code, IsAuthored snippets code ∨ IsWindow snippets code → IsBlank code) ∧
        IsBlank error.name ∧ error.message = "" ∧ file = "" := by
  cases hshows with
  | authored hcode hshown =>
      exact iff_of_false hshown fun hnothing => hshown (hnothing.1 text (.inl hcode))
  | window hauthored hcode hshown =>
      exact iff_of_false hshown fun hnothing => hshown (hnothing.1 text (.inr hcode))
  | described hauthored hwindow =>
      have hcode : ∀ code, IsAuthored snippets code ∨ IsWindow snippets code → IsBlank code :=
        fun code hcode => hcode.elim (hauthored code) (hwindow code)
      rw [isBlank_description_iff, and_iff_right hcode]

/-- Whatever the generator, it is given the file, the language and the line as they are, and the one
text that there is a reason to show. -/
theorem build_shows (error : ErrorRecord) (file : String) (line : Nat) (language : Language)
    (snippets : PromptSnippets) :
    ∃ text,
      (∀ other, Shows snippets error file line other ↔ other = text) ∧
      (∀ generator : PromptGenerator,
        build generator error file line language snippets =
          generator error ⟨file, language, line, text⟩) ∧
      (IsBlank text ↔
        (∀ code, IsAuthored snippets code ∨ IsWindow snippets code → IsBlank code) ∧
          IsBlank error.name ∧ error.message = "" ∧ file = "") := by
  obtain ⟨text, htext⟩ := exists_shows snippets error file line
  have hchoice := htext.eq_choice
  refine ⟨text, fun other => ?_, fun generator => ?_, htext.isBlank_iff⟩
  · rw [shows_iff, ← hchoice]
  · rw [build, ← hchoice]

/-- Blank authored code and a line behind the last lead to the description. -/
theorem build_shows_description :
    let error : ErrorRecord := ⟨"SyntaxError", "Unexpected token", none⟩
    let snippets : PromptSnippets :=
      { authored := some ⟨" \t\u2003", 1, 1⟩, sourceText := some "let a\n", line := 2 }
    Shows snippets error "/src/a.ts" 3 "SyntaxError: Unexpected token (at /src/a.ts:3)" ∧
      build .terse error "/src/a.ts" 3 .typeScript snippets =
        PromptGenerator.terse error
          ⟨"/src/a.ts", .typeScript, 3, "SyntaxError: Unexpected token (at /src/a.ts:3)"⟩ := by
  intro error snippets
  have hauthored : ∀ other, IsAuthored snippets other → IsBlank other := by
    rintro other ⟨s, hs, rfl⟩
    obtain rfl := Option.some.inj hs
    rfl
  have hwindow : ∀ other, IsWindow snippets other → IsBlank other := by
    rintro other ⟨source, s, hsource, hcut, rfl⟩
    obtain rfl := Option.some.inj hsource
    cases hcut
  have hshows : Shows snippets error "/src/a.ts" 3
      "SyntaxError: Unexpected token (at /src/a.ts:3)" :=
    .described hauthored hwindow
  obtain ⟨text, hunique, hbuild, -⟩ := build_shows error "/src/a.ts" 3 .typeScript snippets
  rw [(hunique _).mp hshows]
  exact ⟨(hunique text).mpr rfl, hbuild .terse⟩

end ErrorOrigin.Prompt
