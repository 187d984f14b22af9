/-!
# Pages of signatures

The plainest documentation page that shows given signatures: each stands in a prototype above an
empty description.  Signatures are written as they are, so markup in them is markup of the page.
-/

namespace ScriptLint

namespace SignaturePage

def opening : String :=
  "<!DOCTYPE html>\n<html><body><div class=\"contents\">\n"

def item (signature : String) : String :=
  "<div class=\"memitem\">\n<div class=\"memproto\">\n" ++
    "<table class=\"memname\"><tr><td class=\"memname\">" ++ signature ++
    "</td></tr></table>\n</div>\n<div class=\"memdoc\"><p>Documented.</p></div>\n</div>\n"

def closing : String :=
  "</div></body></html>\n"

def ofSignatures (signatures : List String) : String :=
  opening ++ String.join (signatures.map item) ++ closing

end SignaturePage

end ScriptLint
