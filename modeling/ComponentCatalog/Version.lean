/-!
# The version

What is stored under one version is not found under another one.
-/

namespace ComponentCatalog

/-- The version of the catalog. -/
def version : String := "0.3.0"

end ComponentCatalog
