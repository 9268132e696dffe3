import CodeShape.Config
import CodeShape.FileTree

/-!
# Finding the configuration

The configuration that counts for a directory is the file of the right name in the nearest directory
above it that has one, itself included. The search does not leave a repository, which is a directory
that holds `.git`.
-/

namespace CodeShape.Discovery

/-- The name of what makes a directory a repository. -/
def repositoryMark : String := ".git"

/-- The configuration in the first of some directories that has one, up to a repository. -/
def search (look : Look) : List Path → Option Path
  | [] => none
  | directory :: rest =>
    let candidate := directory.child Config.fileName
    if (look candidate).toOption.any Entry.isFile then some candidate
    else if (look (directory.child repositoryMark)).isOk then none
    else search look rest

/-- The configuration that counts for a directory. -/
def findConfig (look : Look) (directory : Path) : Option Path :=
  search look directory.ancestors

end CodeShape.Discovery
