import PageHarvest.Html.Body

/-!
# Tokens in tables, selections and around the body

The remaining modes. A token inside a table that has no place there is read as part of the body,
and what it inserts goes in front of the table.
-/

namespace PageHarvest.Html.Build

/-! ## Before the body -/

/-- How the public identifiers of the types before HTML 4.01 start. -/
def oldPublicFronts : List String :=
  ["-//advasoft ltd//dtd html 3.0 aswedit + extensions//",
    "-//as//dtd html 3.0 aswedit + extensions//",
    "-//ietf//dtd html 2.0 level 1//", "-//ietf//dtd html 2.0 level 2//",
    "-//ietf//dtd html 2.0 strict level 1//", "-//ietf//dtd html 2.0 strict level 2//",
    "-//ietf//dtd html 2.0 strict//", "-//ietf//dtd html 2.0//", "-//ietf//dtd html 2.1e//",
    "-//ietf//dtd html 3.0//", "-//ietf//dtd html 3.2 final//", "-//ietf//dtd html 3.2//",
    "-//ietf//dtd html 3//", "-//ietf//dtd html level 0//", "-//ietf//dtd html level 1//",
    "-//ietf//dtd html level 2//", "-//ietf//dtd html level 3//",
    "-//ietf//dtd html strict level 0//", "-//ietf//dtd html strict level 1//",
    "-//ietf//dtd html strict level 2//", "-//ietf//dtd html strict level 3//",
    "-//ietf//dtd html strict//", "-//ietf//dtd html//",
    "-//metrius//dtd metrius presentational//",
    "-//microsoft//dtd internet explorer 2.0 html strict//",
    "-//microsoft//dtd internet explorer 2.0 html//",
    "-//microsoft//dtd internet explorer 2.0 tables//",
    "-//microsoft//dtd internet explorer 3.0 html strict//",
    "-//microsoft//dtd internet explorer 3.0 html//",
    "-//microsoft//dtd internet explorer 3.0 tables//",
    "-//netscape comm. corp.//dtd html//", "-//netscape comm. corp.//dtd strict html//",
    "-//o'reilly and associates//dtd html 2.0//",
    "-//o'reilly and associates//dtd html extended 1.0//",
    "-//o'reilly and associates//dtd html extended relaxed 1.0//",
    "-//softquad software//dtd hotmetal pro 6.0::19990601::extensions to html 4.0//",
    "-//softquad//dtd hotmetal pro 4.0::19971010::extensions to html 4.0//",
    "-//spyglass//dtd html 2.0 extended//", "-//sq//dtd html 2.0 hotmetal + extensions//",
    "-//sun microsystems corp.//dtd hotjava html//",
    "-//sun microsystems corp.//dtd hotjava strict html//",
    "-//w3c//dtd html 3 1995-03-24//", "-//w3c//dtd html 3.2 draft//",
    "-//w3c//dtd html 3.2 final//", "-//w3c//dtd html 3.2//", "-//w3c//dtd html 3.2s draft//",
    "-//w3c//dtd html 4.0 frameset//", "-//w3c//dtd html 4.0 transitional//",
    "-//w3c//dtd html experimental 19960712//", "-//w3c//dtd html experimental 970421//",
    "-//w3c//dtd w3 html//", "-//w3o//dtd w3 html 3.0//", "-//webtechs//dtd mozilla html 2.0//",
    "-//webtechs//dtd mozilla html//"]

/-- Whole public identifiers that ask for quirks as well. -/
def oldPublicIds : List String :=
  ["-//w3o//dtd w3 html strict 3.0//en//", "-/w3c/dtd html 4.0 transitional/en", "html"]

/-- How the public identifiers start that ask for quirks where no system identifier comes with
them. -/
def loosePublicFronts : List String :=
  ["-//w3c//dtd html 4.01 frameset//", "-//w3c//dtd html 4.01 transitional//"]

/-- The system identifier that asks for quirks. -/
def oldSystemId : String := "http://www.ibm.com/data/dtd/v11/ibmxhtml1-transitional.dtd"

/-- Whether a document type asks for the rules of old documents. Letter case does not count. -/
def asksForQuirks (d : Doctype) : Bool :=
  let startsAny (fronts : List String) (id : String) : Bool := fronts.any (Text.startsWith id)
  let publicId := d.publicId.map Text.asciiLower
  d.quirks || d.name != "html" ||
    publicId.any (fun id => oldPublicIds.contains id || startsAny oldPublicFronts id) ||
    (d.systemId.map Text.asciiLower).any (· == oldSystemId) ||
    (d.systemId.isNone && publicId.any (startsAny loosePublicFronts))

def initial (t : Token) : Build Bool := do
  match t with
  | .char c =>
    if Token.isBlank c then done
    else
      modify fun b => { b with quirks := true }
      again .beforeHtml
  | .comment s =>
    insertCommentIn 0 s
    done
  | .doctype d =>
    modify fun b => { b with quirks := asksForQuirks d }
    setMode .beforeHtml
    done
  | .fault => done
  | .tag _ | .stop =>
    modify fun b => { b with quirks := true }
    again .beforeHtml

/-- Makes the root element. -/
def makeRoot (t : Tag) : Build Unit := do
  let i ← makeElement ⟨.html, "html", plainAttributes t.attributes⟩
  put (.lastIn 0) i
  push i

/-- Whether the token is an end tag that opens nothing by itself. -/
def isStrayEnd (t : Token) : Bool :=
  match t with
  | .tag tag => tag.isEnd && !(["head", "body", "html", "br"].contains tag.name)
  | _ => false

def isBlankToken : Token → Bool
  | .char c => Token.isBlank c
  | _ => false

def isStart (t : Token) (name : String) : Option Tag :=
  match t with
  | .tag tag => if !tag.isEnd && tag.name == name then some tag else none
  | _ => none

def beforeHtml (t : Token) : Build Bool := do
  match t with
  | .doctype _ | .fault => done
  | .comment s =>
    insertCommentIn 0 s
    done
  | t =>
    match isStart t "html" with
    | some tag =>
      makeRoot tag
      setMode .beforeHead
      done
    | none =>
      if isBlankToken t || isStrayEnd t then done
      else
        makeRoot (bareTag "html")
        again .beforeHead

def openHead (t : Tag) : Build Unit := do
  let i ← insertTag t
  modify fun b => { b with head := some i, mode := .inHead }

def beforeHead (t : Token) : Build Bool := do
  match t with
  | .doctype _ | .fault => done
  | .comment s =>
    insertComment s
    done
  | t =>
    match isStart t "html", isStart t "head" with
    | some tag, _ =>
      addToRoot tag
      done
    | _, some tag =>
      openHead tag
      done
    | none, none =>
      if isBlankToken t || isStrayEnd t then done
      else
        openHead (bareTag "head")
        return true

def openBody : Build Bool := do
  insertBare "body"
  again .inBody

/-- A tag of the head after the head: it goes into the head all the same. -/
def lateHeadTag (t : Tag) : Build Unit := do
  match (← get).head with
  | some head =>
    push head
    insertHeadTag t
    removeOpen head
  | none => pure ()

def afterHead (t : Token) : Build Bool := do
  match t with
  | .doctype _ | .fault => done
  | .comment s =>
    insertComment s
    done
  | .char c =>
    if Token.isBlank c then
      insertChar c
      done
    else openBody
  | .stop => openBody
  | .tag tag =>
    if tag.isEnd then
      if tag.name = "template" then
        endTemplate
        done
      else if ["body", "html", "br"].contains tag.name then openBody
      else done
    else
      match tag.name with
      | "html" =>
        addToRoot tag
        done
      | "body" =>
        insert tag
        noFrameset
        setMode .inBody
        done
      | "frameset" =>
        insert tag
        setMode .inFrameset
        done
      | "head" => done
      | name =>
        if headTags.contains name then
          lateHeadTag tag
          done
        else openBody

/-! ## Text -/

def leaveText : Build Unit := do
  pop
  modify fun b => { b with mode := b.returnMode }

def inText (t : Token) : Build Bool := do
  match t with
  | .char c =>
    insertChar (Token.orReplacement c)
    done
  | .stop =>
    leaveText
    return true
  | .tag _ =>
    leaveText
    done
  | .comment _ | .doctype _ | .fault => done

/-! ## Tables -/

def tableParts : List String := ["table", "tbody", "tfoot", "thead", "tr"]

def closeDownTo (names : List String) : Build Unit :=
  popWhile fun l => !l.isHtml (names ++ ["html", "template"])

/-- Reads a token as part of the body, with what it inserts in front of the table. -/
def fosterInBody (t : Token) : Build Bool := do
  modify fun b => { b with fostering := true }
  let r ← inBody t
  modify fun b => { b with fostering := false }
  return r

def startInTable (t : Tag) : Build Bool := do
  match t.name with
  | "caption" =>
    closeDownTo ["table"]
    pushMarker
    insert t
    setMode .inCaption
    done
  | "colgroup" =>
    closeDownTo ["table"]
    insert t
    setMode .inColumnGroup
    done
  | "col" =>
    closeDownTo ["table"]
    insertBare "colgroup"
    again .inColumnGroup
  | "tbody" | "tfoot" | "thead" =>
    closeDownTo ["table"]
    insert t
    setMode .inTableBody
    done
  | "td" | "th" | "tr" =>
    closeDownTo ["table"]
    insertBare "tbody"
    again .inTableBody
  | "table" =>
    if ← inScope boundsTableScope ["table"] then
      popThroughNamed ["table"]
      resetMode
      return true
    else done
  | "style" | "script" | "template" =>
    insertHeadTag t
    done
  | "form" =>
    let inTemplate ← anyOpen fun l => l.isHtml ["template"]
    if !inTemplate && (← get).form.isNone then
      let i ← insertTag t
      pop
      modify fun b => { b with form := some i }
    done
  | _ =>
    if isHiddenInput t then
      insertVoid t
      done
    else fosterInBody (.tag t)

def endInTable (t : Tag) : Build Bool := do
  match t.name with
  | "table" =>
    if ← inScope boundsTableScope ["table"] then
      popThroughNamed ["table"]
      resetMode
    done
  | "template" =>
    endTemplate
    done
  | name =>
    if ["body", "caption", "col", "colgroup", "html", "tbody", "td", "tfoot", "th", "thead",
        "tr"].contains name then done
    else fosterInBody (.tag t)

def inTable (t : Token) : Build Bool := do
  match t with
  | .char _ =>
    if ← currentIs tableParts then
      modify fun b => { b with returnMode := b.mode, mode := .inTableText, tableText := [] }
      return true
    else fosterInBody t
  | .comment s =>
    insertComment s
    done
  | .doctype _ | .fault => done
  | .stop => inBody .stop
  | .tag tag => if tag.isEnd then endInTable tag else startInTable tag

/-- Puts the text inside a table: blanks alone stay there, other text goes in front. -/
def flushTableText : Build Unit := do
  let text := (← get).tableText.reverse
  modify fun b => { b with tableText := [], mode := b.returnMode }
  for c in text do
    if text.all Token.isBlank then insertChar c
    else
      let _ ← fosterInBody (.char c)

def inTableText (t : Token) : Build Bool := do
  match t with
  | .char c =>
    if c.toNat ≠ 0 then modify fun b => { b with tableText := c :: b.tableText }
    done
  | _ =>
    flushTableText
    return true

/-- The tags that end a caption or a cell. -/
def tableTags : List String :=
  ["caption", "col", "colgroup", "tbody", "td", "tfoot", "th", "thead", "tr"]

def closeCaption : Build Unit := do
  closeImplied
  popThroughNamed ["caption"]
  clearToMarker
  setMode .inTable

def inCaption (t : Token) : Build Bool := do
  match t with
  | .tag tag =>
    let leaves := (!tag.isEnd && tableTags.contains tag.name) ||
      (tag.isEnd && tag.name == "table")
    if leaves || (tag.isEnd && tag.name == "caption") then
      if ← inScope boundsTableScope ["caption"] then
        closeCaption
        return leaves
      else done
    else if tag.isEnd && (tableTags.contains tag.name || ["body", "html"].contains tag.name) then
      done
    else inBody t
  | t => inBody t

def leaveColumns : Build Bool := do
  if ← currentIs ["colgroup"] then
    pop
    again .inTable
  else done

def inColumnGroup (t : Token) : Build Bool := do
  match t with
  | .char c =>
    if Token.isBlank c then
      insertChar c
      done
    else leaveColumns
  | .comment s =>
    insertComment s
    done
  | .doctype _ | .fault => done
  | .stop => inBody .stop
  | .tag tag =>
    match tag.name, tag.isEnd with
    | "html", false =>
      addToRoot tag
      done
    | "col", false =>
      insertVoid tag
      done
    | "col", true => done
    | "colgroup", true =>
      if ← currentIs ["colgroup"] then
        pop
        setMode .inTable
      done
    | "template", _ => inHead t
    | _, _ => leaveColumns

def sections : List String := ["tbody", "tfoot", "thead"]

def leaveSection (m : Mode) : Build Unit := do
  closeDownTo sections
  pop
  setMode m

def inTableBody (t : Token) : Build Bool := do
  match t with
  | .tag tag =>
    if !tag.isEnd && tag.name == "tr" then
      closeDownTo sections
      insert tag
      setMode .inRow
      done
    else if !tag.isEnd && (tag.name == "th" || tag.name == "td") then
      closeDownTo sections
      insertBare "tr"
      again .inRow
    else if tag.isEnd && sections.contains tag.name then
      if ← inScope boundsTableScope [tag.name] then leaveSection .inTable
      done
    else if (!tag.isEnd && (["caption", "col", "colgroup"] ++ sections).contains tag.name) ||
        (tag.isEnd && tag.name == "table") then
      if ← inScope boundsTableScope ["table", "tbody", "tfoot"] then
        leaveSection .inTable
        return true
      else done
    else if tag.isEnd && ["body", "caption", "col", "colgroup", "html", "td", "th",
        "tr"].contains tag.name then done
    else inTable t
  | t => inTable t

def leaveRow : Build Unit := do
  closeDownTo ["tr"]
  pop
  setMode .inTableBody

def inRow (t : Token) : Build Bool := do
  match t with
  | .tag tag =>
    if !tag.isEnd && (tag.name == "th" || tag.name == "td") then
      closeDownTo ["tr"]
      insert tag
      setMode .inCell
      pushMarker
      done
    else if tag.isEnd && tag.name == "tr" then
      if ← inScope boundsTableScope ["tr"] then leaveRow
      done
    else if (!tag.isEnd && (["caption", "col", "colgroup", "tr"] ++ sections).contains tag.name) ||
        (tag.isEnd && tag.name == "table") then
      if ← inScope boundsTableScope ["tr"] then
        leaveRow
        return true
      else done
    else if tag.isEnd && sections.contains tag.name then
      if (← inScope boundsTableScope [tag.name]) && (← inScope boundsTableScope ["tr"]) then
        leaveRow
        return true
      else done
    else if tag.isEnd && ["body", "caption", "col", "colgroup", "html", "td", "th"].contains
        tag.name then done
    else inTable t
  | t => inTable t

def closeCell : Build Unit := do
  closeImplied
  popThroughNamed ["td", "th"]
  clearToMarker
  setMode .inRow

def inCell (t : Token) : Build Bool := do
  match t with
  | .tag tag =>
    if tag.isEnd && (tag.name == "td" || tag.name == "th") then
      if ← inScope boundsTableScope [tag.name] then
        closeImplied
        popThroughNamed [tag.name]
        clearToMarker
        setMode .inRow
      done
    else if !tag.isEnd && tableTags.contains tag.name then
      if ← inScope boundsTableScope ["td", "th"] then
        closeCell
        return true
      else done
    else if tag.isEnd && ["body", "caption", "col", "colgroup", "html"].contains tag.name then done
    else if tag.isEnd && tableParts.contains tag.name then
      if ← inScope boundsTableScope [tag.name] then
        closeCell
        return true
      else done
    else inBody t
  | t => inBody t

/-! ## Selections -/

def closeSelect : Build Unit := do
  popThroughNamed ["select"]
  resetMode

/-- The end tag of a group of options; an open option in it is closed too. -/
def endOptionGroup : Build Unit := do
  let b ← get
  let isAt (k : Nat) (name : String) : Bool :=
    (b.stack[k]?.bind b.draft.label?).any fun l => l.isHtml [name]
  if isAt 0 "option" && isAt 1 "optgroup" then pop
  if ← currentIs ["optgroup"] then pop

def inSelect (t : Token) : Build Bool := do
  match t with
  | .char c =>
    if c.toNat ≠ 0 then insertChar c
    done
  | .comment s =>
    insertComment s
    done
  | .doctype _ | .fault => done
  | .stop => inBody .stop
  | .tag tag =>
    match tag.name, tag.isEnd with
    | "html", false =>
      addToRoot tag
      done
    | "option", false =>
      if ← currentIs ["option"] then pop
      insert tag
      done
    | "optgroup", false =>
      if ← currentIs ["option"] then pop
      if ← currentIs ["optgroup"] then pop
      insert tag
      done
    | "optgroup", true =>
      endOptionGroup
      done
    | "option", true =>
      if ← currentIs ["option"] then pop
      done
    | "select", _ =>
      if ← inScope boundsSelectScope ["select"] then closeSelect
      done
    | "script", false | "template", _ => inHead t
    | name, isEnd =>
      if !isEnd && ["input", "keygen", "textarea"].contains name &&
          (← inScope boundsSelectScope ["select"]) then
        closeSelect
        return true
      else done

def inSelectInTable (t : Token) : Build Bool := do
  match t with
  | .tag tag =>
    if (["caption", "td", "th"] ++ tableParts).contains tag.name then
      if !tag.isEnd || (← inScope boundsTableScope [tag.name]) then
        closeSelect
        return true
      else done
    else inSelect t
  | t => inSelect t

/-! ## Templates -/

/-- The mode that a start tag asks for in a template. -/
def templateModeOf (name : String) : Mode :=
  match name with
  | "caption" | "colgroup" | "tbody" | "tfoot" | "thead" => .inTable
  | "col" => .inColumnGroup
  | "tr" => .inTableBody
  | "td" | "th" => .inRow
  | _ => .inBody

def inTemplate (t : Token) : Build Bool := do
  match t with
  | .char _ | .comment _ | .doctype _ | .fault => inBody t
  | .stop => stopInTemplate
  | .tag tag =>
    if tag.isEnd then
      if tag.name = "template" then endTemplate
      done
    else if headTags.contains tag.name then
      insertHeadTag tag
      done
    else
      let m := templateModeOf tag.name
      modify fun b => { b with templateModes := m :: b.templateModes.tail, mode := m }
      return true

/-! ## After the body -/

def afterBody (t : Token) : Build Bool := do
  match t with
  | .char c => if Token.isBlank c then inBody t else again .inBody
  | .comment s =>
    insertCommentIn ((← get).stack.getLast?.getD 0) s
    done
  | .doctype _ | .fault | .stop => done
  | .tag tag =>
    if tag.name = "html" then
      if tag.isEnd then setMode .afterAfterBody else addToRoot tag
      done
    else again .inBody

def inFrameset (t : Token) : Build Bool := do
  match t with
  | .char c =>
    if Token.isBlank c then insertChar c
    done
  | .comment s =>
    insertComment s
    done
  | .doctype _ | .fault | .stop => done
  | .tag tag =>
    match tag.name, tag.isEnd with
    | "html", false => addToRoot tag
    | "frameset", false => insert tag
    | "frameset", true =>
      if (← get).stack.length > 1 then
        pop
        if !(← currentIs ["frameset"]) then setMode .afterFrameset
    | "frame", false => insertVoid tag
    | "noframes", false => insertHeadTag tag
    | _, _ => pure ()
    done

def afterFrameset (t : Token) : Build Bool := do
  match t with
  | .char c =>
    if Token.isBlank c then insertChar c
    done
  | .comment s =>
    insertComment s
    done
  | .doctype _ | .fault | .stop => done
  | .tag tag =>
    match tag.name, tag.isEnd with
    | "html", false => addToRoot tag
    | "html", true => setMode .afterAfterFrameset
    | "noframes", false => insertHeadTag tag
    | _, _ => pure ()
    done

def afterAfterBody (t : Token) : Build Bool := do
  match t with
  | .comment s =>
    insertCommentIn 0 s
    done
  | .doctype _ | .fault | .stop => done
  | t =>
    match isStart t "html" with
    | some tag =>
      addToRoot tag
      done
    | none => if isBlankToken t then inBody t else again .inBody

def afterAfterFrameset (t : Token) : Build Bool := do
  match t with
  | .comment s =>
    insertCommentIn 0 s
    done
  | .doctype _ | .fault | .stop => done
  | .char c => if Token.isBlank c then inBody t else done
  | .tag tag =>
    match tag.name, tag.isEnd with
    | "html", false => addToRoot tag
    | "noframes", false => insertHeadTag tag
    | _, _ => pure ()
    done

/-- A token in a mode. -/
def inMode (m : Mode) (t : Token) : Build Bool :=
  match m with
  | .initial => initial t
  | .beforeHtml => beforeHtml t
  | .beforeHead => beforeHead t
  | .inHead => inHead t
  | .afterHead => afterHead t
  | .inBody => inBody t
  | .text => inText t
  | .inTable => inTable t
  | .inTableText => inTableText t
  | .inCaption => inCaption t
  | .inColumnGroup => inColumnGroup t
  | .inTableBody => inTableBody t
  | .inRow => inRow t
  | .inCell => inCell t
  | .inSelect => inSelect t
  | .inSelectInTable => inSelectInTable t
  | .inTemplate => inTemplate t
  | .afterBody => afterBody t
  | .inFrameset => inFrameset t
  | .afterFrameset => afterFrameset t
  | .afterAfterBody => afterAfterBody t
  | .afterAfterFrameset => afterAfterFrameset t

end PageHarvest.Html.Build
