import HtmlToLatex.Proofs.Agreement
import HtmlToLatex.Proofs.Containers

set_option autoImplicit false

/-! # The document around a body

A document is put around the blocks of a body before these are joined. Blocks that do not show are
dropped only then, and a body that was joined counts as one block, so the document surrounds the
joined body (`joinBlocks_wrapDocument_eq`). Nothing below looks at the options of the document:
`convert_surrounds`. -/

namespace HtmlToLatex

open Conversion

/-! ## The text of a document -/

/-- The text of a document: its class, its packages if there are any, its title block, its body if
    that shows anything, and its end, with an empty line between them. -/
def documentText (options : Options) (body : String) : String :=
  let packages := options.packages.getD []
  Latex.documentClass options.docClass
    ++ (if packages = [] then "" else "\n\n" ++ Latex.usePackages packages)
    ++ "\n\n" ++ Latex.beginDocument options.title options.author options.includeDate
    ++ (if body = "" then "" else "\n\n" ++ body)
    ++ "\n\n" ++ Latex.endDocument

theorem joinBlocks_cons {t : String} (ht : t ≠ "") {ts : List String} (hts : filledBlocks ts ≠ []) :
    joinBlocks (t :: ts) = t ++ "\n\n" ++ joinBlocks ts := by
  have hfilled : filledBlocks (t :: ts) = t :: filledBlocks ts :=
    List.filter_cons_of_pos (by simpa using ht)
  rw [joinBlocks_eq, joinBlocks_eq, hfilled]
  cases hrest : filledBlocks ts with
  | nil => exact absurd hrest hts
  | cons u us => rw [String.intercalate_cons_cons]

theorem joinBlocks_empty_cons (ts : List String) : joinBlocks ("" :: ts) = joinBlocks ts :=
  joinBlocks_congr rfl

theorem filledBlocks_cons_ne_nil {t : String} (ht : t ≠ "") (ts : List String) :
    filledBlocks (t :: ts) ≠ [] := by
  simp [filledBlocks, ht]

theorem command_ne_empty (name argument : String) : Latex.command name argument ≠ "" := by
  simp [Latex.command, Latex.group]

theorem beginDocument_ne_empty (title author : Option String) (includeDate : Bool) :
    Latex.beginDocument title author includeDate ≠ "" := by
  unfold Latex.beginDocument
  cases title <;> cases author <;> cases includeDate <;> simp [command_ne_empty]

/-- **A document surrounds the joined body.** -/
theorem joinBlocks_wrapDocument_eq {options : Options} (hwrapper : options.documentWrapper = true)
    (blocks : List String) :
    joinBlocks (wrapDocument options blocks) = documentText options (joinBlocks blocks) := by
  have hclass : Latex.documentClass options.docClass ≠ "" := command_ne_empty _ _
  have hbegin := beginDocument_ne_empty options.title options.author options.includeDate
  have hend : Latex.endDocument ≠ "" := by simp [Latex.endDocument]
  have hlast : joinBlocks [Latex.endDocument] = Latex.endDocument := by
    simp [joinBlocks_eq, filledBlocks, hend]
  -- The blocks of the body count as the one that they are joined to.
  rw [wrapDocument, if_pos hwrapper, ← joinBlocks_joinBlocks, documentHead, documentText]
  generalize joinBlocks blocks = body
  have hbody : joinBlocks [body, Latex.endDocument] =
      (if body = "" then "" else body ++ "\n\n") ++ Latex.endDocument := by
    by_cases hempty : body = ""
    · rw [hempty, joinBlocks_empty_cons, hlast]
      rfl
    · rw [joinBlocks_cons hempty (filledBlocks_cons_ne_nil hend _), hlast, if_neg hempty]
  have hrest : filledBlocks [body, Latex.endDocument] ≠ [] := by simp [filledBlocks, hend]
  cases hpackages : options.packages.getD [] with
  | nil =>
      simp only [List.isEmpty_nil, if_true, List.cons_append, List.nil_append]
      rw [joinBlocks_cons hclass (filledBlocks_cons_ne_nil hbegin _), joinBlocks_cons hbegin hrest,
        hbody]
      split <;> simp [String.append_assoc]
  | cons first others =>
      have huse : Latex.usePackages (first :: others) ≠ "" :=
        intercalate_ne_empty (command_ne_empty _ _) _
      simp only [List.isEmpty_cons, Bool.false_eq_true, if_false, List.cons_append, List.nil_append]
      rw [joinBlocks_cons hclass (filledBlocks_cons_ne_nil huse _),
        joinBlocks_cons huse (filledBlocks_cons_ne_nil hbegin _), joinBlocks_cons hbegin hrest,
        hbody]
      split <;> simp [String.append_assoc]

/-! ## Options of the document -/

/-- Options for another document around the result, or for none. -/
def Options.inDocument (options : Options) (wrapper : Bool) (docClass : String)
    (title author : Option String) (includeDate : Bool) (packages : Option (List String)) :
    Options :=
  { options with documentWrapper := wrapper, docClass, title, author, includeDate, packages }

/-- No node is shown differently in another document. -/
theorem alikeAt_inDocument (setting : Setting) (wrapper : Bool) (docClass : String)
    (title author : Option String) (includeDate : Bool) (packages : Option (List String))
    (node : Node) :
    let options :=
      setting.options.inDocument wrapper docClass title author includeDate packages
    AlikeAt (· = ·) { setting with options } setting node where
  text content _ := by
    simp only [normalizeText, normalizeChars, breakReplacement, chooseDelimiters,
      Options.inDocument]
    rfl
  lineBreak _ := by
    simp only [lineBreak, Options.inDocument]
    rfl
  image _ attributes _ _ _ := by
    rintro w _ rfl
    exact ⟨rfl, rfl⟩
  paragraph _ w := by
    simp only [paragraphOf, Options.inDocument]
    rfl

/-- **The document only surrounds the body.** The options of the document have no part in the body,
however deep its blocks are nested. Without a document around it the result is the body, and with
one it is the text of the document with the body inside. Nothing else is done to the world. -/
theorem convert_surrounds (setting : Setting) (nodes : List Node) (docClass : String)
    (title author : Option String) (includeDate : Bool) (packages : Option (List String)) :
    let around (wrapper : Bool) : Setting :=
      { setting with
        options := setting.options.inDocument wrapper docClass title author includeDate packages }
    let body := convertNodes setting nodes
    (∀ wrapper, convertNodes (around wrapper) nodes = body) ∧
      convert (around false) nodes = body ∧
      convert (around true) nodes = do return documentText (around true).options (← body) := by
  intro around body
  have hblocks (wrapper : Bool) :
      convertBlocks (around wrapper) nodes = convertBlocks setting nodes := by
    refine Conversion.Agree.eq (convertBlocksAfter_agree keptByMessages_eq none nodes fun n _ => ?_)
    exact alikeAt_inDocument ..
  refine ⟨fun wrapper => ?_, ?_, ?_⟩
  · rw [convertNodes, hblocks]
    rfl
  · rw [convert, hblocks]
    rfl
  · rw [convert, hblocks]
    have hwrapper : (around true).options.documentWrapper = true := rfl
    simp only [joinBlocks_wrapDocument_eq hwrapper]
    rfl

end HtmlToLatex
