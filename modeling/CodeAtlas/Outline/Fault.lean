import CodeAtlas.Syntax.Cursor

/-!
# Errors that count

An ampersand that stands alone in the text of an element is allowed there, although the grammar
takes it for an error. All other errors count.

- `Cursor.isStrayAmpersand`: is an error of the allowed form?
- `Cursor.isFatal`: does a node show an error that counts?
- `hasFatalErrors`: does a tree hold such a node?
-/

namespace CodeAtlas

namespace Cursor

/-- The nearest ancestor that is no error. -/
def home? (c : Cursor) : Option Node := c.ancestors.find? (!·.isError)

/-- Is the text of an error within an element, and does it hold an ampersand but no bracket? -/
def isStrayAmpersand (src : Source) (c : Cursor) : Bool :=
  let text := c.node.text src
  text.contains '&' && !text.any "<>\x7b\x7d".toList.contains
    && c.home?.any fun n => n.kind == .jsxElement || n.kind == .jsxFragment

def isFatal (src : Source) (c : Cursor) : Bool :=
  c.node.isMissing || (c.node.isError && !c.isStrayAmpersand src)

/-- To the next node, but below an error or a node without errors nothing is looked at. -/
def nextSuspect? (c : Cursor) : Option Cursor :=
  if !c.node.isError && c.node.isFaulty then c.next? else c.past?

end Cursor

def hasFatalErrors (tree : SyntaxTree) : Bool :=
  tree.root.isFaulty &&
    (Cursor.walk Cursor.nextSuspect? tree.root.size (.ofRoot tree.root)).any
      (Cursor.isFatal tree.source)

end CodeAtlas
