import RepoAtlas.Manifest.Dependencies

/-!
# Known frameworks

For each kind of manifest, the packages or words that give a framework away.
-/

namespace RepoAtlas.Framework

def named (entries : List (String × String)) : KnownPackages :=
  entries.map fun (package, framework) => (package.toList, framework.toList)

def node : KnownPackages := named [
  ("next", "Next.js"),
  ("react", "React"),
  ("react-native", "React Native"),
  ("vue", "Vue"),
  ("nuxt", "Nuxt"),
  ("svelte", "Svelte"),
  ("@sveltejs/kit", "SvelteKit"),
  ("@angular/core", "Angular"),
  ("@remix-run/react", "Remix"),
  ("astro", "Astro"),
  ("gatsby", "Gatsby"),
  ("solid-js", "Solid"),
  ("electron", "Electron"),
  ("express", "Express"),
  ("fastify", "Fastify"),
  ("koa", "Koa"),
  ("@nestjs/core", "NestJS"),
  ("tailwindcss", "TailwindCSS"),
  ("typescript", "TypeScript"),
  ("vite", "Vite"),
  ("prisma", "Prisma"),
  ("mongoose", "Mongoose"),
  ("jest", "Jest"),
  ("vitest", "Vitest")]

def python : KnownPackages := named [
  ("django", "Django"),
  ("flask", "Flask"),
  ("fastapi", "FastAPI"),
  ("starlette", "Starlette"),
  ("tornado", "Tornado"),
  ("pyramid", "Pyramid"),
  ("aiohttp", "aiohttp"),
  ("sqlalchemy", "SQLAlchemy"),
  ("pydantic", "Pydantic"),
  ("celery", "Celery"),
  ("streamlit", "Streamlit"),
  ("torch", "PyTorch"),
  ("tensorflow", "TensorFlow"),
  ("pandas", "pandas"),
  ("numpy", "NumPy"),
  ("pytest", "pytest")]

def go : KnownPackages := named [
  ("github.com/gin-gonic/gin", "Gin"),
  ("github.com/labstack/echo", "Echo"),
  ("github.com/gofiber/fiber", "Fiber"),
  ("github.com/gorilla/mux", "Gorilla Mux"),
  ("github.com/go-chi/chi", "Chi"),
  ("github.com/spf13/cobra", "Cobra"),
  ("gorm.io/gorm", "GORM"),
  ("google.golang.org/grpc", "gRPC")]

def rust : KnownPackages := named [
  ("actix-web", "Actix Web"),
  ("axum", "Axum"),
  ("rocket", "Rocket"),
  ("warp", "Warp"),
  ("tokio", "Tokio"),
  ("serde", "Serde"),
  ("diesel", "Diesel"),
  ("sqlx", "SQLx"),
  ("tauri", "Tauri"),
  ("bevy", "Bevy")]

def jvm : KnownPackages := named [
  ("spring-boot", "Spring Boot"),
  ("io.quarkus", "Quarkus"),
  ("io.micronaut", "Micronaut"),
  ("io.ktor", "Ktor"),
  ("hibernate", "Hibernate"),
  ("junit", "JUnit"),
  ("com.android.application", "Android"),
  ("org.jetbrains.kotlin", "Kotlin")]

def scala : KnownPackages := named [
  ("akka-http", "Akka HTTP"),
  ("play", "Play Framework"),
  ("zio", "ZIO"),
  ("spark-core", "Apache Spark")]

def ruby : KnownPackages := named [
  ("rails", "Ruby on Rails"),
  ("sinatra", "Sinatra"),
  ("hanami", "Hanami"),
  ("rspec", "RSpec"),
  ("sidekiq", "Sidekiq")]

def php : KnownPackages := named [
  ("laravel/framework", "Laravel"),
  ("symfony/framework-bundle", "Symfony"),
  ("symfony/symfony", "Symfony"),
  ("slim/slim", "Slim"),
  ("cakephp/cakephp", "CakePHP"),
  ("phpunit/phpunit", "PHPUnit")]

def dart : KnownPackages := named [
  ("flutter", "Flutter"),
  ("flutter_bloc", "Bloc"),
  ("provider", "Provider"),
  ("riverpod", "Riverpod")]

def dotNet : KnownPackages := named [
  ("Microsoft.AspNetCore", "ASP.NET Core"),
  ("Microsoft.EntityFrameworkCore", "Entity Framework Core"),
  ("xunit", "xUnit"),
  ("NUnit", "NUnit")]

def cmake : KnownPackages := named [
  ("Qt5", "Qt"),
  ("Qt6", "Qt"),
  ("Boost", "Boost"),
  ("OpenCV", "OpenCV"),
  ("GTest", "GoogleTest")]

def swift : KnownPackages := named [
  ("vapor/vapor", "Vapor"),
  ("Alamofire", "Alamofire"),
  ("swift-composable-architecture", "TCA")]

def vcpkg : KnownPackages := named [
  ("qt", "Qt"),
  ("boost", "Boost"),
  ("opencv", "OpenCV"),
  ("gtest", "GoogleTest")]

end RepoAtlas.Framework
