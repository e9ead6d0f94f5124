import CssAudit.Text.Basic

/-!
# What the gate lets through

The tables name the properties, units, functions and keywords that untrusted
declarations may use, and the patterns that none of them may contain.
-/

namespace CssAudit

namespace Gate

def listed (table : List String) (name : Text) : Bool :=
  table.any fun entry => entry.toList == name

/-- The properties that may be declared. -/
def allowedProperties : List String :=
  ["font-family", "font-size", "font-weight", "font-style", "line-height",
    "text-align", "text-decoration", "text-transform", "letter-spacing",
    "word-spacing", "color", "background", "background-color", "border-color",
    "outline-color", "width", "height", "min-width", "min-height", "max-width",
    "max-height", "margin", "margin-top", "margin-right", "margin-bottom",
    "margin-left", "padding", "padding-top", "padding-right", "padding-bottom",
    "padding-left", "border", "border-width", "border-style", "border-radius",
    "border-top", "border-right", "border-bottom", "border-left", "display",
    "position", "top", "right", "bottom", "left", "z-index", "float", "clear",
    "overflow", "overflow-x", "overflow-y", "flex", "flex-direction", "flex-wrap",
    "justify-content", "align-items", "align-content", "gap",
    "grid-template-columns", "grid-template-rows", "grid-gap", "grid-column",
    "grid-row", "opacity", "box-shadow", "text-shadow", "transform", "transition",
    "animation", "cursor", "visibility", "list-style", "list-style-type",
    "vertical-align"]

/-- The units that a length may have. -/
def allowedUnits : List String :=
  ["px", "em", "rem", "%", "vh", "vw", "vmin", "vmax", "ch", "ex", "pt", "cm", "mm",
    "in", "pc", "deg", "rad", "turn", "s", "ms", "fr"]

/-- The functions that a value may call, in lower case. -/
def allowedFunctions : List String :=
  ["rgb", "rgba", "hsl", "hsla", "calc", "var", "linear-gradient",
    "radial-gradient", "scale", "rotate", "translate", "translatex", "translatey",
    "skew"]

/-- The keywords of the properties that take nothing else but lengths. -/
def keywordTable : List (String × List String) :=
  [("display", ["block", "inline", "inline-block", "flex", "grid", "none"]),
    ("position", ["static", "relative", "absolute", "fixed", "sticky"]),
    ("text-align", ["left", "right", "center", "justify"]),
    ("font-weight", ["normal", "bold", "bolder", "lighter"]),
    ("font-style", ["normal", "italic", "oblique"]),
    ("border-style", ["none", "solid", "dashed", "dotted", "double"]),
    ("cursor", ["auto", "pointer", "default", "text", "move", "not-allowed"])]

/-- The keywords of a property, if it is in the table. -/
def keywordsOf? (property : Text) : Option (List String) :=
  (keywordTable.find? fun entry => entry.1.toList == property).map (·.2)

/-- The patterns that reject a whole batch wherever they occur. -/
def dangerousPatterns : List String :=
  ["javascript:", "expression(", "behavior:", "@import", "-moz-binding", "vbscript:",
    "data:text/html"]

/-- The property that rejects a whole batch whatever its value. -/
def dangerousProperty : Text :=
  "behavior".toList

/-- The largest absolute value of a number. -/
def numberLimit : Float := 10000

end Gate

end CssAudit
