import GrammarForm.Form.Document
import GrammarForm.Html.Basic

/-!
# The form as a page

The form shows every section of a document with its commands and groups, and below them the
configuration.  Each widget is a control that submits its value under the key of its node.

## Main definitions

* `Node.html`, `CommandForm.html`, `GroupForm.html` : the parts of the form.
* `Document.formHtml` : the form.
* `Document.page` : a whole page with the form.
-/

namespace GrammarForm

open Html

/-- The id of the control with a given key. -/
def controlId (key : String) : String :=
  "f-" ++ key

/-- A mark that tells whether something is valid. -/
def validityMark (valid : Bool) : Html :=
  if valid then
    .element "span" [attr "class" "valid-mark", attr "title" "valid"]
      [.reference "#10003"]
  else
    .element "span" [attr "class" "invalid-mark", attr "title" "incomplete or invalid"]
      [.reference "#10005"]

/-- An option of a choice. -/
def optionElement (attributes : List Attribute) (selected : Bool) (label : String) : Html :=
  .element "option" (attributes ++ switch selected "selected") [.text label]

namespace Offer

/-- The element of an option. -/
def html (o : Offer) : Html :=
  optionElement [attr "value" (toString o.index), attr "title" o.tooltip] o.selected
    o.label

end Offer

/-- A hidden control. -/
def hiddenControl (key value : String) : Html :=
  .void "input" [attr "type" "hidden", attr "name" key, attr "value" value]

namespace Widget

/-- The control of a widget with a given key.  A choice that is disabled submits nothing itself, so
that a hidden control stands in for it. -/
def html (key tooltip : String) : Widget → List Html
  | text value _ valid =>
    ownLine "  " (.void "input" ([attr "type" "text", attr "id" (controlId key),
      attr "name" key, attr "value" value,
      attrAfter "\n         " "title" tooltip] ++
      if valid then [] else [attr "class" "invalid"]))
  | choice options selected tooltip disabled =>
    ownLine "  " (.element "select"
      ([attr "id" (controlId key), attr "name" key, attr "title" tooltip] ++
        switch disabled "disabled")
      (.text "\n" ::
        ownLine "    " (optionElement [attr "value" "-1"] selected.isNone unresolvedText) ++
        options.flatMap (fun o => ownLine "    " o.html) ++ [.text "  "])) ++
    (match selected with
      | some i => if disabled then ownLine "  " (hiddenControl key (toString i)) else []
      | none => [])

/-- The explanation of the selected alternative. -/
def explanationHtml : Widget → List Html
  | choice _ (some _) tooltip _ =>
    if tooltip = "" then []
    else ownLine "  " (.element "p" [attr "class" "explanation"] [.text tooltip])
  | _ => []

end Widget

namespace Node

/-- The label of a node. -/
def labelHtml (n : Node) : List Html :=
  if n.showLabel then
    ownLine "  " (.element "label" [attr "for" (controlId n.key)]
      [.text (n.label ++ ". " ++ n.symbol ++ ":")])
  else []

/-- The issue of a node. -/
def issueHtml (n : Node) : List Html :=
  match n.issue with
  | none => []
  | some i => ownLine "  " (.element "span" [attr "class" "issue"] [.text i.message])

/-- The tooltip of a node that shows its label. -/
def tooltipHtml (n : Node) : List Html :=
  if n.showLabel && n.tooltip != "" then
    ownLine "  " (.element "span" [attr "class" "tooltip"] [.text n.tooltip])
  else []

/-- The part of a node above its children. -/
def headHtml (n : Node) : List Html :=
  n.labelHtml ++
    (match n.widget with
      | none => []
      | some w => w.html n.key n.tooltip) ++
    n.issueHtml ++ n.tooltipHtml ++
    (match n.widget with
      | none => []
      | some w => w.explanationHtml)

/-- The children of a node below it. -/
def childrenHtml (children : List Html) : List Html :=
  if children.isEmpty then []
  else
    ownLine "  " (.element "div" [attr "class" "children"]
      (.text "\n" ::
        children.flatMap (fun c => ownLine "    " (.element "div" [] [c, .text "\n"])) ++
        [.text "  "]))

/-- A node around its content. -/
def frame (n : Node) (content : List Html) : Html :=
  .element "div" [attr "class" (if n.issue.isSome then "node has-issue" else "node")]
    (.text "\n" :: content)

mutual

/-- The part of the form for a subtree. -/
def html : Node → Html
  | n@⟨_, _, _, _, _, _, children, _, _, _⟩ =>
    n.frame (n.headHtml ++ childrenHtml (htmlOf children))

/-- The parts of the form for several subtrees. -/
def htmlOf : List Node → List Html
  | [] => []
  | n :: rest => n.html :: htmlOf rest

end

end Node

/-- An explanation, if there is one. -/
def explanationLine (explanation : String) : List Html :=
  if explanation = "" then []
  else ownLine "  " (.element "p" [attr "class" "tooltip"] [.text explanation])

/-- A text with hyphens for its dots. -/
def hyphenated (s : String) : String :=
  String.ofList (s.toList.map fun c => if c = '.' then '-' else c)

/-- A piece that is followed by the end of its own line and another one. -/
def block (indent : String) (h : Html) : List Html :=
  [.text indent, h, .text "\n\n"]

namespace CommandForm

/-- The part of the form for a command. -/
def html (c : CommandForm) : Html :=
  .element "div"
    [attr "class" ("command" ++ (if c.inline then " inline" else "") ++
        (if c.line.valid then "" else " invalid")),
      attr "id" ("cmd-" ++ hyphenated c.label)]
    (.text "\n" ::
      ownLine "  " (.element "div" [attr "class" "command-head"]
        (.text "\n" ::
          [.text "    ", validityMark c.line.valid, .text " ",
            .element "b" [] [.text (c.label ++ ". " ++ c.name ++ ":")], .text "\n"] ++
          (if c.inline then block "    " c.root.html else []) ++ [.text "  "])) ++
      explanationLine c.explanation ++
      (if c.inline then [] else block "  " c.root.html) ++
      ownLine "  " (.element "code" [attr "class" "line"] [.text c.line.text]))

end CommandForm

namespace GroupForm

/-- A button that changes the counter of a group. -/
def button (key title : String) (enabled : Bool) (label : Html) : Html :=
  .element "button"
    ([attr "type" "submit", attr "name" key, attr "value" "1",
      attr "title" title, attrAfter "\n            " "hx-post" "/",
      attr "hx-include" "closest form", attr "hx-target" "#config-form",
      attr "hx-swap" "outerHTML"] ++ switch (!enabled) "disabled")
    [label]

/-- The part of the form for a group. -/
def html (g : GroupForm) : Html :=
  let bound := if 0 < g.maximum then s!" of at most {g.maximum}" else ""
  .element "div" [attr "class" "group", attr "id" ("grp-" ++ g.label)]
    (.text "\n" ::
      ownLine "  " (.element "div" [attr "class" "group-head"]
        (.text "\n" ::
          ownLine "    " (.element "b" [] [.text (g.label ++ ". " ++ g.name)]) ++
          [.text s!"    ({g.count}{bound})\n"] ++
          ownLine "    " (hiddenControl g.countKey (toString g.count)) ++
          ownLine "    " (button g.plusKey ("Add one " ++ g.name) g.canAdd (.text "+")) ++
          ownLine "    " (button g.minusKey ("Remove the last " ++ g.name) g.canRemove
            (.reference "minus")) ++
          [.text "  "])) ++
      explanationLine g.explanation ++
      g.commands.flatMap fun c => block "  " c.html)

end GroupForm

namespace FormItem

/-- The part of the form for an item. -/
def html : FormItem → Html
  | command c => c.html
  | group g => g.html

end FormItem

namespace FormSection

/-- The part of the form for a section. -/
def html (s : FormSection) : Html :=
  .element "section" [attr "class" "cmd-section"]
    (.text "\n" :: ownLine "    " (.element "h2" [] [.text s.title]) ++
      s.items.flatMap (fun i => block "    " i.html) ++ [.text "  "])

end FormSection

/-- The buttons below the form. -/
def actionsHtml : Html :=
  .element "div" [attr "class" "actions"]
    (.text "\n" ::
      ownLine "    " (.element "button" [attr "type" "submit"] [.text "Update"]) ++
      ownLine "    " (.element "button"
        [attr "type" "submit", attr "formaction" "/document"]
        [.text "Download configuration file"]) ++
      [.text "  "])

namespace ConfigLine

/-- A line of the configuration in the form. -/
def html (l : ConfigLine) : Html :=
  .element "span" [attr "class" (if l.valid then "line" else "line invalid")] [.text l.text]

end ConfigLine

namespace Document

/-- The configuration below the form. -/
def configurationHtml (d : Document) : Html :=
  let invalid := d.invalidLines.length
  .element "section" [attr "class" "document"]
    (.text "\n" ::
      ownLine "    " (.element "h2" [] [.text "Configuration File"]) ++
      (if invalid = 0 then []
        else ownLine "    " (.element "p" [attr "class" "issue"]
          [.text s!"{invalid} line(s) still need attention."])) ++
      ownLine "    " (.element "pre" [attr "id" "config-document"]
        (.text "\n" :: d.lines.flatMap fun l => ownLine "" l.html)) ++
      [.text "  "])

/-- The form. -/
def formHtml (d : Document) : Html :=
  .element "form"
    [attr "id" "config-form", attr "method" "post", attr "action" "/",
      attrAfter "\n      " "hx-post" "/", attr "hx-trigger" "change",
      attr "hx-target" "this", attr "hx-swap" "outerHTML"]
    (.text "\n" :: d.sections.flatMap (fun s => ownLine "  " s.html) ++
      ownLine "  " actionsHtml ++ ownLine "  " d.configurationHtml)

end Document

/-- The version shown on the page. -/
def version : String := "0.3.0"

/-- The style sheet of the page. -/
def styleSheet : String :=
  "
    body \x7b font-family: sans-serif; margin: 2rem auto; max-width: 60rem; line-height: 1.4; \x7d
    h2 \x7b border-bottom: 1px solid #ccc; margin-top: 2rem; \x7d
    .command, .group \x7b border: 1px solid #ddd; border-radius: 4px; margin: .75rem 0; " ++
  "padding: .5rem .75rem; \x7d
    .command.invalid \x7b border-color: #c33; background: #fff5f5; \x7d
    .group > .command \x7b margin-left: 1.5rem; \x7d
    .children \x7b margin-left: 1.5rem; \x7d
    .inline .node, .inline .command-head \x7b display: inline; \x7d
    .tooltip, .explanation \x7b color: #555; font-size: .9em; margin: .25rem 0; \x7d
    .issue \x7b color: #c33; font-size: .9em; margin-left: .5rem; \x7d
    .valid-mark \x7b color: #393; \x7d
    .invalid-mark \x7b color: #c33; \x7d
    input.invalid \x7b border: 2px solid #c33; \x7d
    code.line \x7b display: block; background: #f4f4f4; margin-top: .5rem; " ++
  "padding: .25rem .5rem; \x7d
    .document pre \x7b background: #f4f4f4; padding: 1rem; \x7d
    .document .line.invalid \x7b color: #c33; font-weight: bold; \x7d
    footer \x7b color: #999; font-size: .8em; margin-top: 3rem; \x7d
  "

/-- The head of a page. -/
def headHtml (title : String) : Html :=
  .element "head" []
    (.text "\n" ::
      ownLine "  " (.void "meta" [attr "charset" "utf-8"]) ++
      ownLine "  " (.void "meta" [attr "name" "viewport",
        attr "content" "width=device-width, initial-scale=1"]) ++
      ownLine "  " (.element "title" [] [.text title]) ++
      ownLine "  " (.element "script" [attr "src" "https://unpkg.com/htmx.org@1.9.12"] []) ++
      ownLine "  " (.element "style" [] [.raw styleSheet]))

/-- The body of a page. -/
def bodyHtml (d : Document) (description : Data) : Html :=
  .element "body" []
    (.text "\n" :: ownLine "" (.element "h1" [] [.text d.title]) ++
      (if description.isGiven then ownLine "" (.element "p" [] [.text description.text]) else []) ++
      [d.formHtml, .element "footer" [] [.text ("swarmconf " ++ version)], .text "\n"])

namespace Document

/-- The text of a whole page with the form. -/
def page (d : Document) (description : Data) : String :=
  "<!DOCTYPE html>\n" ++ (Html.element "html" [attr "lang" "en"]
    (.text "\n" :: ownLine "" (headHtml d.title) ++ ownLine "" (bodyHtml d description))).write

/-- The text of the form alone. -/
def fragment (d : Document) : String :=
  d.formHtml.write

end Document

end GrammarForm
