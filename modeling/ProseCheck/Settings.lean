import ProseCheck.Field
import ProseCheck.Record
import ProseCheck.Text.Blank

/-
  This file defines the settings that an editor sends, and
  reads them from an object such as

    languageTool: language, disabledRules, ignoredWords

  Key definitions include:
    * `Settings`
    * `Settings.ofFields`
    * `Settings.parse`
    * `Settings.toJson`
-/

------------------------------------------------------------
-- Settings
------------------------------------------------------------

namespace ProseCheck

/-
  What an editor decides: the language of its documents, the
  rules that are not checked, and the words to leave alone.
-/
structure Settings where
  language : Option String := none
  disabledRules : List String := []
  ignoredWords : List String := []
deriving DecidableEq, Repr

namespace Settings

/- The section that holds the settings. -/
def sectionName : String :=
  "languageTool"

/- The settings as the object that holds them. -/
def toJson
    (s : Settings) : Json :=
  let language : Json :=
    match s.language with
    | some l => .str l
    | none => .null
  .obj [(sectionName,
    .obj [("language", language),
      ("disabledRules", .arr (s.disabledRules.map .str)),
      ("ignoredWords", .arr (s.ignoredWords.map .str))])]

end Settings

end ProseCheck

------------------------------------------------------------
-- Fields
------------------------------------------------------------

namespace ProseCheck

namespace Settings

/- The language of a field.  A blank one counts as none. -/
def languageOf : Json → Option String
  | .null => none
  | v =>
      let language := strip v.shown
      if language.isEmpty then none else some language

/- The words of items, without the blank ones. -/
def wordsOf
    (items : List Json) : List String :=
  (items.map (fun v => strip v.shown)).filter
    (fun w => !w.isEmpty)

/- The words of a field: of a list, or of a single string. -/
def wordList : Json → Except FieldFault (List String)
  | .null => .ok []
  | .str s => .ok (wordsOf [.str s])
  | .arr items => .ok (wordsOf items)
  | _ => .error .notList

/- A field under its usual name, or else under its long one. -/
def either?
    (fields : List (String × Json))
    (usual long : String) : Option (String × Json) :=
  match Json.lookup fields usual with
  | some v => some (usual, v)
  | none => (Json.lookup fields long).map (fun v => (long, v))

/- The words of a field, which may be missing. -/
def wordField
    (fields : List (String × Json))
    (usual long : String) :
    Except FieldError (List String) :=
  match either? fields usual long with
  | none => .ok []
  | some (name, v) =>
      (wordList v).mapError (fun f => ⟨some name, f⟩)

end Settings

end ProseCheck

------------------------------------------------------------
-- Reading Settings
------------------------------------------------------------

namespace ProseCheck

namespace Settings

/- The settings of a section, or every error in it. -/
def ofFields
    (fields : List (String × Json)) :
    Except (List FieldError) Settings :=
  let language :=
    ((Json.lookup fields "language").getD .null)
  let rules :=
    wordField fields "disabledRules" "disabled_rules"
  let words :=
    wordField fields "ignoredWords" "ignored_words"
  match rules, words with
  | .ok rules, .ok words =>
      .ok ⟨languageOf language, rules, words⟩
  | .error e, .ok _ => .error [e]
  | .ok _, .error e => .error [e]
  | .error e, .error f => .error [e, f]

/-
  The settings that an editor sent, if they can be used.  It
  is reported why they cannot.
-/
def parse
    (payload : Json) : Recorded LogRecord (Option Settings) :=
  match payload with
  | .obj fields =>
      match Json.lookup fields sectionName with
      | some (.obj inner) =>
          match ofFields inner with
          | .ok s => pure (some s)
          | .error errors =>
              ⟨none,
                [⟨.error,
                  "Invalid " ++ sectionName ++
                    " settings: " ++
                    FieldError.summary errors⟩]⟩
      | _ =>
          ⟨none,
            [⟨.warning,
              "Ignoring configuration change without a '" ++
                sectionName ++ "' section"⟩]⟩
  | _ =>
      ⟨none,
        [⟨.warning,
          "Ignoring configuration change without a " ++
            "settings object"⟩]⟩

end Settings

end ProseCheck
