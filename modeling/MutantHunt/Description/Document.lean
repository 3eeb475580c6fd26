import MutantHunt.Description
import MutantHunt.Error
import MutantHunt.Json.Decode

/-!
# The JSON of a description

A description is written as an object with one member `infoForFiles`, a list with one object per
source file; its member `mutationTreeRoot` is the tree of the file. A node has its `children` and
its `mutationGroups`, and a group is tagged with its kind. Members of other names are passed over
everywhere, and trees nest as deep as the text does.
-/

namespace MutantHunt

open Json

/-- The kinds of groups, by the tag they are written with. -/
inductive GroupKind where
  | replaceExpr
  | replaceBinaryOperator
  | replaceUnaryOperator
  | removeStmt
  deriving DecidableEq, Repr

/-- The tags of the kinds of groups. -/
def GroupKind.tags : List (String × GroupKind) :=
  [("replaceExpr", replaceExpr), ("replaceBinaryOperator", replaceBinaryOperator),
    ("replaceUnaryOperator", replaceUnaryOperator), ("removeStmt", removeStmt)]

/-- Reads one instance of a rewrite, which names its mutant. -/
def readInstance (bound : Nat) : Reader MutantId :=
  UInt32.ofNat <$> readSingle "MutationInstance" bound "mutationId" (readWord 32)

/-- Reads the instances of a group. -/
def readInstances (bound : Nat) : Reader (List MutantId) :=
  readSingle "MutationInstances" bound "instances" (readList bound (readInstance bound))

/-- Reads what belongs to a kind of groups: one instance for a removal, a list of them otherwise. -/
def readGroupOf (bound : Nat) : GroupKind → Reader MutationGroup
  | .replaceExpr => .replaceExpr <$> readInstances bound
  | .replaceBinaryOperator => .replaceBinaryOperator <$> readInstances bound
  | .replaceUnaryOperator => .replaceUnaryOperator <$> readInstances bound
  | .removeStmt => .removeStmt <$> readInstance bound

/-- Reads a group. A bare tag is none, whatever the tag. -/
def readGroup (bound : Nat) : Reader MutationGroup :=
  readChoice GroupKind.tags (readGroupOf bound)
    fun _ => .error (ShapeFault.wrongKind .bareTag .taggedContent)

/-- Reads a node with all nodes below it. The number bounds the length of the input. -/
def readNode : Nat → Reader NodeDescription
  | 0 => fun _ => .error SyntaxFault.endInValue
  | n + 1 =>
    (fun (children, groups) => .mk children groups) <$>
      readPair "NodeDescription" n "children" (readList n (readNode n)) "mutationGroups"
        (readList n (readGroup n))

/-- Reads what is written for one source file. -/
def readFile (bound : Nat) : Reader NodeDescription :=
  readSingle "FileInfo" bound "mutationTreeRoot" (readNode bound)

/-- Reads a description. -/
def readDescription (bound : Nat) : Reader Description :=
  Description.mk <$>
    readSingle "MutationInfo" bound "infoForFiles" (readList bound (readFile bound))

/-- The description that a text writes, given as bytes. -/
def Description.ofBytes (bytes : List UInt8) : Except TreeError Description :=
  match readDocument (readDescription bytes.length) bytes with
  | .ok description => .ok description
  | .error fault => .error (.malformedDescription (.unparsable fault))

end MutantHunt
