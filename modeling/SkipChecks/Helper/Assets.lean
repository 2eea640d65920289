import SkipChecks.Text.Basic

/-!
# The built-in helper blocks

The functions that guards call, and the check for errors on a page that leaves noise aside. Each
block is the text of a file, line by line.
-/

namespace SkipChecks.Helper

/-- The lines of the functions that guards call. The location of the manifest is left open. -/
def skipHelperLines : List String :=
  ["<?php",
    "",
    "declare(strict_types=1);",
    "",
    "$_routeManifest = null;",
    "",
    "function getRouteManifest(): array",
    "\x7b",
    "    global $_routeManifest;",
    "",
    "    if ($_routeManifest === null) \x7b",
    "        $manifestPath = __DIR__.'/\x7b\x7bROUTE_MANIFEST\x7d\x7d';",
    "        $decoded = file_exists($manifestPath) ? json_decode((string) file_get_contents($manifestPath), true) : null;",
    "        $_routeManifest = is_array($decoded) ? $decoded : ['routes' => [], 'route_count' => 0];",
    "    \x7d",
    "",
    "    return $_routeManifest;",
    "\x7d",
    "",
    "function routeExists(string $routeName): bool",
    "\x7b",
    "    $manifest = getRouteManifest();",
    "",
    "    if (! empty($manifest['routes'])) \x7b",
    "        return in_array($routeName, $manifest['routes'], true);",
    "    \x7d",
    "",
    "    return Illuminate\\Support\\Facades\\Route::has($routeName);",
    "\x7d",
    "",
    "function skipIfRouteMissing(string $routeName): void",
    "\x7b",
    "    if (! routeExists($routeName)) \x7b",
    "        PHPUnit\\Framework\\Assert::markTestSkipped(\"Route [\x7b$routeName\x7d] not available in this project\");",
    "    \x7d",
    "\x7d",
    "",
    "function skipIfMethodMissing(string $class, string $method): void",
    "\x7b",
    "    if (! method_exists($class, $method)) \x7b",
    "        PHPUnit\\Framework\\Assert::markTestSkipped(\"Method [\x7b$class\x7d::\x7b$method\x7d()] not available in this project\");",
    "    \x7d",
    "\x7d",
    "",
    "// Deliberately empty: page content cannot be checked before the test runs.",
    "function skipIfContentMissing(string $url, string $expectedContent): void",
    "\x7b",
    "\x7d",
    "",
    "function skipWhenRouteMissing(string $routeName): bool",
    "\x7b",
    "    return ! routeExists($routeName);",
    "\x7d",
    "",
    "function skipWhenMethodMissing(string $class, string $method): bool",
    "\x7b",
    "    return ! method_exists($class, $method);",
    "\x7d",
    "",
    "function isStarterKitProject(): bool",
    "\x7b",
    "    return routeExists('login') && routeExists('register') && routeExists('dashboard') && routeExists('home');",
    "\x7d",
    "",
    "function skipIfNotStarterKit(): void",
    "\x7b",
    "    if (! isStarterKitProject()) \x7b",
    "        PHPUnit\\Framework\\Assert::markTestSkipped('Test requires Laravel starter kit features');",
    "    \x7d",
    "\x7d",
    ""]

/-- The lines of the check for errors on a page. -/
def pageErrorLines : List String :=
  ["<?php",
    "",
    "declare(strict_types=1);",
    "",
    "function isCspParserError(string $text): bool",
    "\x7b",
    "    return str_contains($text, 'CSP Parser Error') || (bool) preg_match('/CSP.*Parser.*Error/i', $text);",
    "\x7d",
    "",
    "function assertNoJavaScriptErrorsExceptCspParser(Pest\\Browser\\Api\\PendingAwaitablePage|Pest\\Browser\\Api\\AwaitableWebpage|Pest\\Browser\\Api\\Webpage $page): Pest\\Browser\\Api\\PendingAwaitablePage|Pest\\Browser\\Api\\AwaitableWebpage|Pest\\Browser\\Api\\Webpage",
    "\x7b",
    "    try \x7b",
    "        $page->assertNoJavaScriptErrors();",
    "    \x7d catch (Throwable $e) \x7b",
    "        throw_unless(is_a($e, 'PHPUnit\\Framework\\AssertionFailedError'), $e);",
    "",
    "        $message = $e->getMessage();",
    "        if (! isCspParserError($message)) \x7b",
    "            throw $e;",
    "        \x7d",
    "",
    "        preg_match_all('/^\\s*- (.+)$/m', $message, $matches);",
    "        $errors = $matches[1];",
    "",
    "        if ($errors === []) \x7b",
    "            return $page;",
    "        \x7d",
    "",
    "        $realErrors = array_values(array_filter($errors, fn (string $error): bool => ! isCspParserError($error)));",
    "        if ($realErrors !== []) \x7b",
    "            throw new PHPUnit\\Framework\\AssertionFailedError(\"Expected no JavaScript errors on the page, but found:\\n\"",
    "                .implode(\"\\n\", array_map(fn (string $error): string => \"- \x7b$error\x7d\", $realErrors)));",
    "        \x7d",
    "    \x7d",
    "",
    "    return $page;",
    "\x7d",
    ""]

def ofLines (lines : List String) : Text := Text.join ['\n'] (lines.map String.toList)

/-- The functions that guards call. -/
def skipHelpers : Text := ofLines skipHelperLines

/-- The check for errors on a page. -/
def pageErrorHelpers : Text := ofLines pageErrorLines

end SkipChecks.Helper
