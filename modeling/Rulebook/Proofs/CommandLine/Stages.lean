import Rulebook.CommandLine
import Rulebook.Proofs.Context.Tokens
import Rulebook.Proofs.Document.Rules

/-!
# The stages of a command

A file is read, its text is compiled, the tokens are written into a context, and the
document is evaluated against it. The first of these stages that fails is what a command
reports, whatever a later one would say, and the commands on files, those on texts and the
command line agree on it.
-/

namespace Rulebook

namespace Settings

variable {settings : Settings} {files : Files} {path : String} {tokens : List String}

/-- A file holds a text: its bytes are the text in UTF-8. -/
def Holds (files : Files) (path text : String) : Prop :=
  files path = .ok text.toByteArray

/-- A file cannot be read as a text. -/
inductive Unreadable (files : Files) (path : String) : ReadFault → Prop
  /-- The system does not give its bytes. -/
  | refused {fault : ReadFault} (h : files path = .error fault) : Unreadable files path fault
  /-- Its bytes are not those of a text. -/
  | notText {bytes : ByteArray} (h : files path = .ok bytes)
      (hbytes : ∀ text : String, text.toByteArray ≠ bytes) : Unreadable files path .notText

theorem readText_of_holds {text : String} (h : Holds files path text) :
    readText files path = .ok text := by
  unfold readText String.fromUTF8?
  rw [h]
  simp only [text.isValidUTF8, dite_true]
  rfl

/-- Reading a file that is no text fails. -/
theorem readText_of_unreadable {fault : ReadFault} (h : Unreadable files path fault) :
    readText files path = .error (.unreadable path fault) := by
  unfold readText
  cases h with
  | refused h => rw [h]
  | @notText bytes h hbytes =>
    have hinvalid : ¬ bytes.IsValidUTF8 := fun hvalid =>
      hbytes (String.fromUTF8 bytes hvalid) rfl
    rw [h]
    simp only [String.fromUTF8?, hinvalid, dite_false]

/-- A file holds a text or cannot be read as one. -/
theorem unreadable_or_holds (files : Files) (path : String) :
    (∃ fault, Unreadable files path fault) ∨ ∃ text, Holds files path text := by
  cases hbytes : files path with
  | error fault => exact Or.inl ⟨fault, .refused hbytes⟩
  | ok bytes =>
    by_cases hvalid : bytes.IsValidUTF8
    · exact Or.inr ⟨String.fromUTF8 bytes hvalid, hbytes⟩
    · refine Or.inl ⟨.notText, .notText hbytes fun text htext => hvalid ?_⟩
      exact htext ▸ text.isValidUTF8

/-- A text that does not compile fails without its reason. -/
theorem compile_eq_error {text : String} {failure : Failure}
    (h : settings.compile text = .error failure) : failure = .invalidDocument := by
  unfold compile at h
  cases hcompile : Document.compile settings.registry text with
  | ok document =>
    rw [hcompile] at h
    cases h
  | error error =>
    rw [hcompile] at h
    cases h
    rfl

theorem validateFile_of_unreadable {fault : ReadFault} (h : Unreadable files path fault) :
    settings.validateFile files path = .error (.unreadable path fault) := by
  unfold validateFile compileFile
  rw [readText_of_unreadable h]
  rfl

/-- A file is valid exactly if its text compiles, and else fails without the reason. -/
theorem validateFile_of_holds {text : String} (h : Holds files path text) :
    (settings.validateFile files path = .ok () ↔
      ∃ document, settings.compile text = .ok document) ∧
      ((∀ document, settings.compile text ≠ .ok document) →
        settings.validateFile files path = .error .invalidDocument) := by
  unfold validateFile compileFile
  rw [readText_of_holds h, Except.ok_bind]
  cases hcompile : settings.compile text with
  | ok document =>
    exact ⟨⟨fun _ => ⟨document, rfl⟩, fun _ => rfl⟩, fun hnone => absurd rfl (hnone _)⟩
  | error failure =>
    obtain rfl := compile_eq_error hcompile
    refine ⟨⟨fun hvalid => ?_, fun hsome => ?_⟩, fun _ => rfl⟩
    · cases hvalid
    · obtain ⟨document, hdocument⟩ := hsome
      cases hdocument

theorem calculateFile_of_unreadable {fault : ReadFault} (h : Unreadable files path fault) :
    settings.calculateFile files path tokens = .error (.unreadable path fault) := by
  unfold calculateFile compileFile
  rw [readText_of_unreadable h]
  rfl

/-- A calculation from a file is the one from its text, with what it gives rendered. -/
theorem calculateFile_of_holds {text : String} (h : Holds files path text) :
    settings.calculateFile files path tokens =
      (settings.calculateText text tokens).map render := by
  unfold calculateFile compileFile calculateText
  rw [readText_of_holds h, Except.ok_bind]
  cases settings.compile text with
  | error failure => rfl
  | ok document =>
    simp only [Except.ok_bind]
    cases (Context.ofTokens tokens).mapError Failure.context with
    | error failure => rfl
    | ok context =>
      simp only [Except.ok_bind]
      cases settings.calculate document context <;> rfl

/-- What a calculation from a file comes to: a failure of the first stage that fails, or the
rendered result. -/
inductive Reports (settings : Settings) (files : Files) (path : String) (tokens : List String) :
    Except Failure String → Prop
  /-- The file is no text. -/
  | unreadable {fault : ReadFault} (hfile : Unreadable files path fault) :
      Reports settings files path tokens (.error (.unreadable path fault))
  /-- Its text does not compile. -/
  | invalid {text : String} (hfile : Holds files path text)
      (hcompile : ∀ document, settings.compile text ≠ .ok document) :
      Reports settings files path tokens (.error .invalidDocument)
  /-- A token is malformed, and none before it. -/
  | malformed {text token : String} {document : Document} (hfile : Holds files path text)
      (hcompile : settings.compile text = .ok document)
      (htoken : Context.FirstMalformed tokens token) :
      Reports settings files path tokens (.error (.context ⟨token⟩))
  /-- A comparer refuses a value of the context. -/
  | refused {text : String} {document : Document} {context : Context} {error : ComparisonError}
      (hfile : Holds files path text) (hcompile : settings.compile text = .ok document)
      (hcontext : Context.ofTokens tokens = .ok context)
      (hevaluate : document.evaluate context.get? settings.hasher = .error error) :
      Reports settings files path tokens (.error (.evaluation error))
  /-- Every stage succeeds. -/
  | given {text : String} {document : Document} {context : Context} {result : Option Json}
      (hfile : Holds files path text) (hcompile : settings.compile text = .ok document)
      (hcontext : Context.ofTokens tokens = .ok context)
      (hevaluate : document.evaluate context.get? settings.hasher = .ok result) :
      Reports settings files path tokens (.ok (render result))

/-- A calculation from a file comes to what its stages report. -/
theorem Reports.calculateFile_eq {outcome : Except Failure String}
    (h : Reports settings files path tokens outcome) :
    settings.calculateFile files path tokens = outcome := by
  cases h with
  | unreadable hfile => exact calculateFile_of_unreadable hfile
  | @invalid text hfile hcompile =>
    rw [calculateFile_of_holds hfile]
    unfold calculateText
    cases hfound : settings.compile text with
    | ok document => exact absurd hfound (hcompile document)
    | error failure =>
      rw [compile_eq_error hfound]
      rfl
  | malformed hfile hcompile htoken =>
    have hcontext : Context.ofTokens tokens = .error _ :=
      Context.addTokens_eq_error_iff.mpr ⟨_, htoken, rfl⟩
    rw [calculateFile_of_holds hfile, calculateText_eq hcompile, hcontext]
    rfl
  | refused hfile hcompile hcontext hevaluate =>
    rw [calculateFile_of_holds hfile, calculateText_eq hcompile, hcontext]
    simp only [calculate, hevaluate]
    rfl
  | given hfile hcompile hcontext hevaluate =>
    rw [calculateFile_of_holds hfile, calculateText_eq hcompile, hcontext]
    simp only [calculate, hevaluate]
    rfl

/-- The stages of a calculation from a file report something. -/
theorem exists_reports (settings : Settings) (files : Files) (path : String)
    (tokens : List String) : ∃ outcome, Reports settings files path tokens outcome := by
  rcases unreadable_or_holds files path with ⟨fault, hfile⟩ | ⟨text, hfile⟩
  · exact ⟨_, .unreadable hfile⟩
  · cases hcompile : settings.compile text with
    | error failure => exact ⟨_, .invalid hfile fun document h => by rw [hcompile] at h; cases h⟩
    | ok document =>
      cases hcontext : Context.ofTokens tokens with
      | error error =>
        obtain ⟨token, htoken, -⟩ := Context.addTokens_eq_error_iff.mp hcontext
        exact ⟨_, .malformed hfile hcompile htoken⟩
      | ok context =>
        cases hevaluate : document.evaluate context.get? settings.hasher with
        | error error => exact ⟨_, .refused hfile hcompile hcontext hevaluate⟩
        | ok result => exact ⟨_, .given hfile hcompile hcontext hevaluate⟩

/-- A calculation from a file comes to exactly what its stages report. -/
theorem calculateFile_eq_iff {outcome : Except Failure String} :
    settings.calculateFile files path tokens = outcome ↔
      Reports settings files path tokens outcome := by
  constructor
  · rintro rfl
    obtain ⟨outcome, h⟩ := exists_reports settings files path tokens
    rw [h.calculateFile_eq]
    exact h
  · exact Reports.calculateFile_eq

end Settings

namespace CommandLine

variable {settings : Settings} {files : Files} {path : String} {tokens : List String}

/-- The arguments of an invocation, with nothing left to guess: tokens in one word with
their option, and the path behind two dashes. -/
def argumentsOf : Invocation → List String
  | .compile path => ["compile", "--", path]
  | .calculate path tokens => "calc" :: (tokens.map ("--context=" ++ ·) ++ ["--", path])
  | .help => ["help"]

/-- A path alone behind two dashes completes a command. -/
theorem readArguments_dashes (command : Command) (tokens : List String) (hpath : path ≠ "") :
    readArguments command ⟨none, tokens⟩ ["--", path] = finish command ⟨some path, tokens⟩ := by
  have hempty : path.isEmpty = false := by simpa using hpath
  have hadd : addPath ⟨none, tokens⟩ path = some ⟨some path, tokens⟩ := by
    simp [addPath, hempty]
  have hpaths : readPaths command ⟨none, tokens⟩ [path] =
      finish command ⟨some path, tokens⟩ := by
    rw [readPaths, hadd]
    rfl
  rw [← hpaths]
  rfl

/-- Tokens in one word with their option are read in their order. -/
theorem readArguments_tokens (path : Option String) (known tokens rest : List String) :
    readArguments .calculate ⟨path, known⟩ (tokens.map ("--context=" ++ ·) ++ rest) =
      readArguments .calculate ⟨path, tokens.reverse ++ known⟩ rest := by
  induction tokens generalizing known with
  | nil => rfl
  | cons token tokens ih =>
    have hword : ("--context=" ++ token).toList =
        '-' :: '-' :: 'c' :: ("ontext=".toList ++ token.toList) := by
      rw [String.toList_append]
      rfl
    have hstep : ∀ words, readArguments .calculate ⟨path, known⟩
        (("--context=" ++ token) :: words) =
          readArguments .calculate ⟨path, token :: known⟩ words := by
      intro words
      rw [readArguments.eq_def]
      simp only [hword]
      rw [if_neg (by simp), if_neg (by simp), if_pos trivial, if_neg (by simp), if_pos (by simp)]
      simp
    rw [List.map_cons, List.cons_append, hstep, ih, List.reverse_cons, List.append_assoc]
    rfl

/-- The arguments of an invocation make it, for every list of tokens and every path that is
not empty. -/
theorem parse_argumentsOf (tokens : List String) (hpath : path ≠ "") :
    parse (argumentsOf (.compile path)) = some (.compile path) ∧
      parse (argumentsOf (.calculate path tokens)) = some (.calculate path tokens) := by
  have hcompile : ∀ words, parse ("compile" :: words) =
      readArguments .compile ⟨none, []⟩ words := by
    intro words
    rw [parse]
    exact if_pos rfl
  have hcalculate : ∀ words, parse ("calc" :: words) =
      readArguments .calculate ⟨none, []⟩ words := by
    intro words
    rw [parse]
    exact (if_neg (by decide)).trans (if_pos rfl)
  constructor
  · rw [argumentsOf, hcompile, readArguments_dashes _ _ hpath]
    rfl
  · rw [argumentsOf, hcalculate, readArguments_tokens, readArguments_dashes _ _ hpath]
    simp only [finish, List.append_nil, List.reverse_reverse]

/-- How a command answers that comes to a text or to a failure: the text and a line end and no
error diagnostic, or the failure as a diagnostic and no output. -/
def answer : Except Failure String → Response
  | .ok text => ⟨0, text ++ "\n", ""⟩
  | .error failure => ⟨1, "", "error: " ++ failure.message ++ "\n"⟩

/-- A run with the arguments of `compile` answers with the validity of the file. -/
theorem run_of_compile {arguments : List String} (h : parse arguments = some (.compile path)) :
    run settings files arguments =
      answer ((settings.validateFile files path).map fun _ => "OK") := by
  unfold run
  simp only [h, perform]
  cases settings.validateFile files path <;> rfl

/-- A run with the arguments of `calc` answers with the calculation from the file. -/
theorem run_of_calculate {arguments : List String}
    (h : parse arguments = some (.calculate path tokens)) :
    run settings files arguments = answer (settings.calculateFile files path tokens) := by
  unfold run
  simp only [h, perform]
  cases settings.calculateFile files path tokens <;> rfl

/-- Files, texts and the command line agree. A file that is no text fails as such, whatever
it is read for; otherwise it is valid exactly if its text compiles, and a calculation is that
from its text, rendered: a value as its own text, and no value as null. It comes to exactly what
its stages report, so the first stage that fails decides. Arguments that make a command answer
with what the command comes to, and such arguments exist for every path that is not empty and
for all tokens. -/
theorem commands_agree (settings : Settings) (files : Files) (path : String)
    (tokens : List String) :
    (∀ fault, Settings.Unreadable files path fault →
      settings.validateFile files path = .error (.unreadable path fault) ∧
        settings.calculateFile files path tokens = .error (.unreadable path fault)) ∧
      (∀ text, Settings.Holds files path text →
        (settings.validateFile files path = .ok () ↔
            ∃ document, settings.compile text = .ok document) ∧
          ((∀ document, settings.compile text ≠ .ok document) →
            settings.validateFile files path = .error .invalidDocument) ∧
          settings.calculateFile files path tokens =
            (settings.calculateText text tokens).map Settings.render) ∧
      (Settings.render none = "null" ∧ ∀ value, Settings.render (some value) = value.render) ∧
      (∀ outcome, settings.calculateFile files path tokens = outcome ↔
        Settings.Reports settings files path tokens outcome) ∧
      (∀ arguments, parse arguments = some (.compile path) →
        run settings files arguments =
          answer ((settings.validateFile files path).map fun _ => "OK")) ∧
      (∀ arguments, parse arguments = some (.calculate path tokens) →
        run settings files arguments = answer (settings.calculateFile files path tokens)) ∧
      (path ≠ "" → parse (argumentsOf (.compile path)) = some (.compile path) ∧
        parse (argumentsOf (.calculate path tokens)) = some (.calculate path tokens)) := by
  refine ⟨fun fault hfile => ?_, fun text hfile => ?_, ⟨rfl, fun value => rfl⟩,
    fun outcome => ?_, fun arguments h => ?_, fun arguments h => ?_, fun hpath => ?_⟩
  · exact ⟨Settings.validateFile_of_unreadable hfile, Settings.calculateFile_of_unreadable hfile⟩
  · exact ⟨(Settings.validateFile_of_holds hfile).1, (Settings.validateFile_of_holds hfile).2,
      Settings.calculateFile_of_holds hfile⟩
  · exact Settings.calculateFile_eq_iff
  · exact run_of_compile h
  · exact run_of_calculate h
  · exact parse_argumentsOf tokens hpath

/-- The answers about a rule for versions from 1.2 on, one for every way in which a command can
end. The malformed token is reported although the evaluation would fail too, and a file that is
not valid or not there before either. -/
theorem commands_agree_versions :
    ∃ files : Files,
      files "rules" =
        .ok r#"[{"Matcher":{"v":{"$compare":"version","$ge":"1.2"}},"Value":[1,"a"]}]"#.toByteArray ∧
      files "number" = .ok "1".toByteArray ∧ files "gone" = .error .notFound ∧
      run .standard files ["compile", "rules"] = ⟨0, "OK\n", ""⟩ ∧
      run .standard files ["calc", "rules", "-c", "v=1.10"] = ⟨0, "[1,\"a\"]\n", ""⟩ ∧
      run .standard files ["calc", "rules", "-c", "v=1.1"] = ⟨0, "null\n", ""⟩ ∧
      run .standard files ["calc", "rules", "-c", "v=new"] =
        ⟨1, "", "error: evaluation failed: comparer `version` cannot parse `new`: " ++
          "components must be decimal digits\n"⟩ ∧
      run .standard files ["calc", "-c", "v=new", "rules", "-c", "v", "--context", "w"] =
        ⟨1, "", "error: malformed context `v`, expected key=value\n"⟩ ∧
      run .standard files ["calc", "number", "-c", "v"] = ⟨1, "", "error: jpad is not valid\n"⟩ ∧
      run .standard files ["calc", "gone", "-c", "v"] =
        ⟨1, "", "error: cannot read `gone`: No such file or directory (os error 2)\n"⟩ := by
  have hread : Json.read?
      r#"[{"Matcher":{"v":{"$compare":"version","$ge":"1.2"}},"Value":[1,"a"]}]"# =
      some (.array [.object [("Matcher", .object [("v", .object [("$compare", .string "version"),
        ("$ge", .string "1.2")])]), ("Value", .array [.number (.natural 1), .string "a"])]]) := by
    rfl
  have hcompile : Settings.standard.compile _ = .ok _ :=
    Settings.compile_of_document ((Document.compile_of_read? _ hread).trans rfl)
  have hnumber : ∀ document, Settings.standard.compile "1" ≠ .ok document := by
    intro document hdocument
    have hrefused : Document.compile Settings.standard.registry "1" = .error _ :=
      (Document.compile_of_read? _ (show Json.read? "1" = some (.number (.natural 1)) by rfl)).trans rfl
    rw [Settings.compile_eq_ok hdocument] at hrefused
    cases hrefused
  have hmalformed : Context.FirstMalformed ["v=new", "v", "w"] "v" := by
    refine ⟨["v=new"], ["w"], rfl, ?_, ?_⟩
    · intro earlier hmem hearlier
      cases List.mem_singleton.mp hmem
      exact hearlier "v" "new" ⟨by decide, by decide, rfl⟩
    · have hsplit : Context.splitToken "v" = .error ⟨"v"⟩ := rfl
      exact (Context.splitToken_eq_error_iff.mp hsplit).1
  let files : Files := fun path =>
    if path = "rules" then
      .ok r#"[{"Matcher":{"v":{"$compare":"version","$ge":"1.2"}},"Value":[1,"a"]}]"#.toByteArray
    else if path = "number" then .ok "1".toByteArray
    else .error .notFound
  have hcalculate : ∀ path tokens {arguments outcome},
      parse arguments = some (.calculate path tokens) →
        Settings.Reports .standard files path tokens outcome →
          run .standard files arguments = answer outcome := by
    intro path tokens arguments outcome hparse hreport
    obtain ⟨-, -, -, hreports, -, hrun, -⟩ := commands_agree .standard files path tokens
    rw [hrun arguments hparse, (hreports outcome).mpr hreport]
  refine ⟨files, rfl, rfl, rfl, ?_, ?_, ?_, ?_, ?_, ?_, ?_⟩
  · obtain ⟨-, hholds, -, -, hrun, -⟩ := commands_agree .standard files "rules" []
    rw [hrun _ rfl, (hholds _ rfl).1.mpr ⟨_, hcompile⟩]
    rfl
  · exact (hcalculate "rules" ["v=1.10"] rfl (.given rfl hcompile rfl rfl)).trans rfl
  · exact (hcalculate "rules" ["v=1.1"] rfl (.given rfl hcompile rfl rfl)).trans rfl
  · exact (hcalculate "rules" ["v=new"] rfl (.refused rfl hcompile rfl rfl)).trans rfl
  · exact (hcalculate "rules" ["v=new", "v", "w"] rfl
      (.malformed rfl hcompile hmalformed)).trans rfl
  · exact (hcalculate "number" ["v"] rfl (.invalid rfl hnumber)).trans rfl
  · exact (hcalculate "gone" ["v"] rfl (.unreadable (.refused rfl))).trans rfl

end CommandLine

end Rulebook
