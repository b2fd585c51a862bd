import RepoAtlas.Language.Family
import RepoAtlas.Language.Registry

/-!
# The stock languages
-/

namespace RepoAtlas.Language

def texts (names : List String) : List Text := names.map String.toList

def scriptFamily (name : Text) (extensions : List String) (defaultExtension : Text) : Language where
  name
  extensions := texts extensions
  forms := ImportForm.Script.forms
  entryPoints := texts ["page.tsx", "page.jsx", "layout.tsx", "layout.jsx", "index.ts",
    "index.tsx", "index.js", "index.jsx", "App.tsx", "App.jsx", "App.vue", "main.ts", "main.tsx",
    "main.js", "server.js", "server.ts", "app.js", "app.ts"]
  manifests := texts ["package.json"]
  skippedFolders := texts ["node_modules", ".next", ".nuxt", ".svelte-kit", ".turbo", ".vercel",
    ".cache", "dist", "build", "out", "coverage", "bower_components"]
  defaultExtension
  probes := texts [".ts", ".tsx", ".js", ".jsx", ".mjs", ".cjs", ".vue", ".svelte", "/index.ts",
    "/index.tsx", "/index.js", "/index.jsx"]
  aliases := texts ["@/", "~/"]

def javaScript : Language :=
  scriptFamily "javascript" [".js", ".jsx", ".mjs", ".cjs"] ".js"

def typeScript : Language :=
  scriptFamily "typescript" [".ts", ".tsx", ".mts", ".cts"] ".ts"

def vue : Language := scriptFamily "vue" [".vue"] ".vue"

def svelte : Language := scriptFamily "svelte" [".svelte"] ".svelte"

def python : Language where
  name := "python"
  extensions := texts [".py", ".pyi"]
  forms := ImportForm.Python.forms
  strategy := .dotted
  entryPoints := texts ["main.py", "app.py", "manage.py", "wsgi.py", "asgi.py", "__main__.py",
    "run.py"]
  manifests := texts ["requirements*.txt", "pyproject.toml", "Pipfile", "setup.py", "setup.cfg"]
  skippedFolders := texts ["__pycache__", ".venv", "venv", "env", ".tox", ".nox", ".mypy_cache",
    ".pytest_cache", ".ruff_cache", ".eggs", "site-packages"]
  defaultExtension := ".py"
  probes := texts [".py", ".pyi", "/__init__.py"]
  searchRoots := texts ["src"]

def go : Language where
  name := "go"
  extensions := texts [".go"]
  forms := ImportForm.Go.forms
  strategy := .modulePath
  entryPoints := texts ["main.go"]
  manifests := texts ["go.mod"]
  skippedFolders := texts ["vendor"]
  defaultExtension := ".go"
  probes := texts [".go"]

def rust : Language where
  name := "rust"
  extensions := texts [".rs"]
  forms := ImportForm.Rust.forms
  strategy := .nested
  entryPoints := texts ["main.rs", "lib.rs"]
  manifests := texts ["Cargo.toml"]
  skippedFolders := texts ["target"]
  defaultExtension := ".rs"
  probes := texts [".rs", "/mod.rs"]

/-- Languages that share build tools and folder names. -/
def jvm (name : Text) (extensions : List String) (pattern : Pattern) (entryPoints : List String)
    (defaultExtension : Text) : Language where
  name
  extensions := texts extensions
  forms := [ImportForm.Jvm.form pattern]
  strategy := .modulePath
  entryPoints := texts entryPoints
  manifests := texts ["pom.xml", "build.gradle", "build.gradle.kts"]
  skippedFolders := texts ["target", "build", ".gradle", ".mvn", "out", ".idea"]
  defaultExtension
  probes := [defaultExtension]

def java : Language :=
  jvm "java" [".java"] ImportForm.Jvm.java ["Main.java", "Application.java", "App.java"] ".java"

def kotlin : Language :=
  jvm "kotlin" [".kt", ".kts"] ImportForm.Jvm.kotlin ["Main.kt", "Application.kt", "App.kt"] ".kt"

def scala : Language where
  name := "scala"
  extensions := texts [".scala"]
  forms := [ImportForm.Jvm.form ImportForm.Jvm.scala]
  strategy := .modulePath
  entryPoints := texts ["Main.scala"]
  manifests := texts ["build.sbt"]
  skippedFolders := texts ["target", ".bsp", ".metals"]
  defaultExtension := ".scala"
  probes := texts [".scala"]

def c : Language where
  name := "c"
  extensions := texts [".c", ".h", ".cpp", ".cc", ".cxx", ".hpp", ".hh", ".hxx", ".m", ".mm"]
  forms := [ImportForm.cInclude]
  strategy := .header
  entryPoints := texts ["main.c", "main.cpp", "main.cc"]
  manifests := texts ["CMakeLists.txt", "vcpkg.json"]
  skippedFolders := texts ["cmake-build-debug", "cmake-build-release", "CMakeFiles"]
  defaultExtension := ".h"
  probes := texts [".h", ".hpp", ".hh"]
  searchRoots := texts ["include", "src"]

def cSharp : Language where
  name := "csharp"
  extensions := texts [".cs"]
  forms := [ImportForm.usingDirective]
  strategy := .modulePath
  entryPoints := texts ["Program.cs", "Startup.cs"]
  manifests := texts ["*.csproj", "packages.config"]
  skippedFolders := texts ["bin", "obj", ".vs"]
  defaultExtension := ".cs"
  probes := texts [".cs"]

def ruby : Language where
  name := "ruby"
  extensions := texts [".rb"]
  forms := ImportForm.Ruby.forms
  entryPoints := texts ["main.rb", "app.rb", "config.ru"]
  manifests := texts ["Gemfile"]
  skippedFolders := texts [".bundle", "vendor"]
  defaultExtension := ".rb"
  probes := texts [".rb"]
  searchRoots := texts ["lib"]

def php : Language where
  name := "php"
  extensions := texts [".php"]
  forms := ImportForm.Php.forms
  strategy := .modulePath
  entryPoints := texts ["index.php", "artisan"]
  manifests := texts ["composer.json"]
  skippedFolders := texts ["vendor"]
  defaultExtension := ".php"
  probes := texts [".php"]

def swift : Language where
  name := "swift"
  extensions := texts [".swift"]
  forms := [ImportForm.swiftImport]
  strategy := .modulePath
  entryPoints := texts ["main.swift", "AppDelegate.swift", "App.swift"]
  manifests := texts ["Package.swift"]
  skippedFolders := texts [".build", "Pods", "DerivedData"]
  defaultExtension := ".swift"
  probes := texts [".swift"]

def dart : Language where
  name := "dart"
  extensions := texts [".dart"]
  forms := [ImportForm.Dart.form]
  entryPoints := texts ["main.dart"]
  manifests := texts ["pubspec.yaml"]
  skippedFolders := texts [".dart_tool", ".pub-cache"]
  defaultExtension := ".dart"
  probes := texts [".dart"]

def stock : List Language :=
  [javaScript, typeScript, vue, svelte, python, go, rust, java, kotlin, scala, c, cSharp, ruby,
    php, swift, dart]

end RepoAtlas.Language

namespace RepoAtlas

def Registry.stock : Registry := ofList Language.stock

end RepoAtlas
